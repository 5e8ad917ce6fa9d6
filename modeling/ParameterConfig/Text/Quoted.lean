import ParameterConfig.Text.Hex
import ParameterConfig.Text.Printable

/-!
# Quoted text

How a text is shown where its extent must be visible: between single quotes, or between double quotes when it holds single quotes and no double ones. The quote in use and the backslash are escaped, line breaks and tabs have short escapes, and every other character that is not printable is written by its code point in the narrowest escape that holds it.
-/

namespace ParameterConfig
namespace Text

def quoteMark (cs : List Char) : Char :=
  if cs.contains '\'' && !cs.contains '"' then '"' else '\''

def quotedChar (mark : Char) (c : Char) : List Char :=
  if c = mark || c = '\\' then ['\\', c]
  else if c = '\n' then ['\\', 'n']
  else if c = '\r' then ['\\', 'r']
  else if c = '\t' then ['\\', 't']
  else if isPrintable c then [c]
  else if c.toNat < 0x100 then '\\' :: 'x' :: hexDigits 2 c.toNat
  else if c.toNat < 0x10000 then '\\' :: 'u' :: hexDigits 4 c.toNat
  else '\\' :: 'U' :: hexDigits 8 c.toNat

def quoted (s : String) : String :=
  let cs := s.toList
  let mark := quoteMark cs
  String.ofList (mark :: cs.flatMap (quotedChar mark) ++ [mark])

end Text
end ParameterConfig
