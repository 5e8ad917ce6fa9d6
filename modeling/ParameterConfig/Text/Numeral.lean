import ParameterConfig.Text.Blank
import ParameterConfig.Text.Digit
import ParameterConfig.Text.Quoted

/-!
# Whole numbers in text

A whole number is written with decimal digits of any script, a single underscore allowed between two of them, after an optional sign and with white space at both ends. It must not have too many digits.
-/

namespace ParameterConfig
namespace Text

/-- Digits with at most one underscore between two of them, by their values. -/
def digitValues? : List Char → Option (List Nat)
  | [] => none
  | [c] => (digitValue? c).map ([·])
  | c :: '_' :: rest => do
    let value ← digitValue? c
    let values ← digitValues? rest
    return value :: values
  | c :: rest => do
    let value ← digitValue? c
    let values ← digitValues? rest
    return value :: values

/-- Why a text is no whole number. The digits of a number are counted before it is known what follows them. -/
inductive NumeralFault where
  | malformed
  | tooLong (digits : Nat)

namespace NumeralFault

/-- No more than this much of a text is quoted. -/
def quotedLength : Nat := 200

def message (s : String) : NumeralFault → String
  | .malformed =>
    "invalid literal for int() with base 10: " ++ String.ofList ((quoted s).toList.take quotedLength)
  | .tooLong digits =>
    "Exceeds the limit (" ++ toString mostDigits ++
      " digits) for integer string conversion: value has " ++ toString digits ++
      " digits; use sys.set_int_max_str_digits() to increase the limit"

end NumeralFault

/-- The number that begins a text, which must be all of it. -/
def natural (cs : List Char) : Except NumeralFault Nat :=
  let (number, rest) := cs.span fun c => isDigit c || c = '_'
  match digitValues? number with
  | none => .error .malformed
  | some values =>
    if mostDigits < values.length then .error (.tooLong values.length)
    else if rest.isEmpty then .ok (values.foldl (fun n value => n * 10 + value) 0)
    else .error .malformed

def integer (s : String) : Except NumeralFault Int :=
  match withoutSpace s.toList with
  | '-' :: rest => (natural rest).map fun n => -(n : Int)
  | '+' :: rest => (natural rest).map Int.ofNat
  | cs => (natural cs).map Int.ofNat

end Text
end ParameterConfig
