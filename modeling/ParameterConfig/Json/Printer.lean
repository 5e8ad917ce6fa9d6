import ParameterConfig.Json
import ParameterConfig.Number.Shortest
import ParameterConfig.Text.Hex

/-!
# Printing JSON

One-line layouts and an indented one, for values that can be written. A text is written in double quotes; quotes, backslashes and control characters are escaped, and where only ASCII may be written everything from U+007F on as well, beyond the first plane by a surrogate pair.
-/

namespace ParameterConfig
namespace Json

/-! ### Texts -/

/-- The escape of one UTF-16 unit. -/
def unitEscape (n : Nat) : List Char :=
  '\\' :: 'u' :: Text.hexDigits 4 n

/-- The escape by code point, as one unit or as a surrogate pair. -/
def codeEscape (n : Nat) : List Char :=
  if n < 0x10000 then unitEscape n
  else
    unitEscape (0xD800 + (n - 0x10000) / 0x400) ++ unitEscape (0xDC00 + (n - 0x10000) % 0x400)

/-- How one character of a text is written. -/
def textChar (asciiOnly : Bool) (c : Char) : List Char :=
  if c = '"' then ['\\', '"']
  else if c = '\\' then ['\\', '\\']
  else if c = '\n' then ['\\', 'n']
  else if c = '\r' then ['\\', 'r']
  else if c = '\t' then ['\\', 't']
  else if c = '\x08' then ['\\', 'b']
  else if c = '\x0c' then ['\\', 'f']
  else if c.toNat < 0x20 then unitEscape c.toNat
  else if asciiOnly && 0x7F ≤ c.toNat then codeEscape c.toNat
  else [c]

def textChars (asciiOnly : Bool) (s : String) : List Char :=
  '"' :: s.toList.flatMap (textChar asciiOnly) ++ ['"']

def specialNames : Double.SpecialNames :=
  { infinity := "Infinity", notANumber := "NaN" }

/-- What is written between the parts of a value on one line. -/
structure Layout where
  comma : List Char
  colon : List Char
  asciiOnly : Bool

namespace Layout

/-- No spaces, and all text as it is. -/
def dense : Layout :=
  { comma := [','], colon := [':'], asciiOnly := false }

/-- A space after each comma and colon, and ASCII only. -/
def spaced : Layout :=
  { comma := [',', ' '], colon := [':', ' '], asciiOnly := true }

end Layout

def scalarChars (asciiOnly : Bool) : Json → List Char
  | .null => "null".toList
  | .bool true => "true".toList
  | .bool false => "false".toList
  | .integer n => (toString n).toList
  | .float x => (x.text specialNames).toList
  | .string s => textChars asciiOnly s
  | .array _ => "[]".toList
  | .object _ => ['\x7b', '\x7d']

/-! ### One line -/

mutual

def lineChars (layout : Layout) : Json → List Char
  | .array (item :: items) =>
    '[' :: lineChars layout item ++ restItems layout items
  | .object ((name, value) :: members) =>
    '\x7b' :: textChars layout.asciiOnly name ++ layout.colon ++ lineChars layout value ++
      restMembers layout members
  | value => scalarChars layout.asciiOnly value

def restItems (layout : Layout) : List Json → List Char
  | [] => [']']
  | item :: items => layout.comma ++ lineChars layout item ++ restItems layout items

def restMembers (layout : Layout) : List (String × Json) → List Char
  | [] => ['\x7d']
  | (name, value) :: members =>
    layout.comma ++ textChars layout.asciiOnly name ++ layout.colon ++ lineChars layout value ++
      restMembers layout members

end

def line (layout : Layout) (value : Json) : String :=
  String.ofList (lineChars layout value)

/-! ### Indented by two spaces a level -/

def newLine (level : Nat) : List Char :=
  '\n' :: List.replicate (2 * level) ' '

mutual

def indentedChars (level : Nat) : Json → List Char
  | .array (item :: items) =>
    '[' :: newLine (level + 1) ++ indentedChars (level + 1) item ++ indentedItems level items
  | .object ((name, value) :: members) =>
    '\x7b' :: newLine (level + 1) ++ textChars true name ++ [':', ' '] ++
      indentedChars (level + 1) value ++ indentedMembers level members
  | value => scalarChars true value

def indentedItems (level : Nat) : List Json → List Char
  | [] => newLine level ++ [']']
  | item :: items =>
    ',' :: newLine (level + 1) ++ indentedChars (level + 1) item ++ indentedItems level items

def indentedMembers (level : Nat) : List (String × Json) → List Char
  | [] => newLine level ++ ['\x7d']
  | (name, value) :: members =>
    ',' :: newLine (level + 1) ++ textChars true name ++ [':', ' '] ++
      indentedChars (level + 1) value ++ indentedMembers level members

end

def indented (value : Json) : String :=
  String.ofList (indentedChars 0 value)

end Json
end ParameterConfig
