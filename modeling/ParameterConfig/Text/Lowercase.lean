import ParameterConfig.Text.Lowercase.Table

/-!
# Full lower case

Each character is replaced by its small letter. Two characters need more than a table of shifts: the capital I with a dot becomes two characters, and a capital sigma becomes the final form exactly when a cased letter stands before it and none after it, case-ignorable characters not counted.
-/

namespace ParameterConfig
namespace Text

def isCased (c : Char) : Bool :=
  CodeRange.anyHolds casedRanges c

def isCaseIgnorable (c : Char) : Bool :=
  CodeRange.anyHolds caseIgnorableRanges c

def startsCased (cs : List Char) : Bool :=
  (cs.dropWhile isCaseIgnorable).head?.any isCased

/-- The small letters of one character, between the text before it (nearest first) and the text after it. -/
def lowerChar (before : List Char) (c : Char) (after : List Char) : List Char :=
  if c = 'Σ' then
    if startsCased before && !startsCased after then ['ς'] else ['σ']
  else if c = 'İ' then ['i', '\u0307']
  else
    match caseShifts.find? (·.covers c.toNat) with
    | some shift => [Char.ofNat (c.toNat + shift.distance).toNat]
    | none => [c]

def lowerFrom (before : List Char) : List Char → List Char
  | [] => []
  | c :: after => lowerChar before c after ++ lowerFrom (c :: before) after

/-- The whole text in small letters. -/
def lowercase (s : String) : String :=
  String.ofList (lowerFrom [] s.toList)

end Text
end ParameterConfig
