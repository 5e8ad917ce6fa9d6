import ParameterConfig.Failure
import ParameterConfig.Text.Blank

/-!
# Validation of fields

Input records are lists of named values whose fields may be given in more than one form: whole numbers also as text or as a fraction of zero, truth values also as words or numbers. A record is valid when each of its fields is, and otherwise all issues are reported in the order of the fields.
-/

namespace ParameterConfig

/-- A value, or everything that stands against it. -/
inductive Validated (α : Type) where
  | valid (value : α)
  | issues (list : List Issue)

namespace Validated

variable {α β : Type}

def map (f : α → β) : Validated α → Validated β
  | .valid value => .valid (f value)
  | .issues list => .issues list

/-- Both parts are looked at, and the issues of both are kept in order. -/
def both : Validated (α → β) → Validated α → Validated β
  | .valid f, value => value.map f
  | .issues list, .valid _ => .issues list
  | .issues first, .issues second => .issues (first ++ second)

instance : Applicative Validated where
  pure := .valid
  map := map
  seq f value := both f (value ())

def toExcept : Validated α → Except Failure α
  | .valid value => .ok value
  | .issues list => .error (.invalid list)

end Validated

namespace Field

/-! ### Forms of a single value -/

def text : Json → Except IssueKind String
  | .string s => .ok s
  | _ => .error .textExpected

def optionalText : Json → Except IssueKind (Option String)
  | .null => .ok none
  | value => (text value).map some

def isAsciiDigit (c : Char) : Bool :=
  '0' ≤ c && c ≤ '9'

/-- Zeros in front, and underscores among them, are dropped; of nothing but zeros the last one stays. -/
def withoutLeadingZeros (cs : List Char) : List Char :=
  let (front, rest) := cs.span fun c => c = '0' || c = '_'
  if cs.head? = some '0' then
    match rest.head? with
    | none | some '.' => front.getLast?.toList ++ rest
    | some _ => rest
  else cs

/-- A fraction that consists of zeros is dropped. -/
def withoutZeroFraction (cs : List Char) : List Char :=
  let (whole, fraction) := cs.span (· ≠ '.')
  if 1 < fraction.length && (fraction.drop 1).all (· = '0') then whole else cs

/-- Underscores that stand between two digits are dropped. -/
def withoutSeparators : List Char → List Char
  | a :: '_' :: b :: rest =>
    if isAsciiDigit a && isAsciiDigit b then a :: withoutSeparators (b :: rest)
    else a :: '_' :: withoutSeparators (b :: rest)
  | c :: rest => c :: withoutSeparators rest
  | [] => []

/-- The most characters a whole number may have, its minus sign included. -/
def longestNumber : Nat := 4300

def wholeOfText (s : String) : Except IssueKind Int :=
  let (negative, unsigned) := match Text.withoutSpace s.toList with
    | '-' :: rest => (true, rest)
    | '+' :: rest => (false, rest)
    | cs => (false, cs)
  let cs := withoutSeparators (withoutZeroFraction (withoutLeadingZeros unsigned))
  let digits := cs.takeWhile isAsciiDigit
  if longestNumber < digits.length + (if negative then 1 else 0) then .error .wholeNumberTooLong
  else if digits.isEmpty || digits.length ≠ cs.length then .error .wholeNumberUnreadable
  else
    let n : Int := digits.foldl (fun n c => n * 10 + (c.toNat - '0'.toNat)) 0
    .ok (if negative then -n else n)

/-- The least number that a signed word of 64 bits has no room for. -/
def wordBound : Int := 9223372036854775808

/-- A fraction of zero counts as whole while it lies strictly within 64 bits. -/
def wholeOfDouble (x : Double) : Except IssueKind Int :=
  match x with
  | .finite .. =>
    match x.integer? with
    | none => .error .fractionGiven
    | some n => if -wordBound < n && n < wordBound then .ok n else .error .wholeNumberTooLong
  | _ => .error .finiteNumberExpected

def whole : Json → Except IssueKind Int
  | .integer n => .ok n
  | .bool value => .ok (if value then 1 else 0)
  | .float x => wholeOfDouble x
  | .string s => wholeOfText s
  | _ => .error .wholeNumberExpected

def trueWords : List String := ["1", "t", "y", "on", "yes", "true"]

def falseWords : List String := ["0", "f", "n", "no", "off", "false"]

def truthOfWord (s : String) : Except IssueKind Bool :=
  let small := String.ofList (s.toList.map Char.toLower)
  if trueWords.contains small then .ok true
  else if falseWords.contains small then .ok false
  else .error .truthValueUnreadable

def truthOfNumber (n : Int) : Except IssueKind Bool :=
  if n = 1 then .ok true
  else if n = 0 then .ok false
  else .error .truthValueUnreadable

/-- Numbers of any size are whole numbers, but only those of 64 bits are read as truth values. -/
def truthOfInteger (n : Int) : Except IssueKind Bool :=
  if -wordBound ≤ n && n < wordBound then truthOfNumber n else .error .truthValueExpected

def truthOfDouble (x : Double) : Except IssueKind Bool :=
  match wholeOfDouble x with
  | .ok n => truthOfNumber n
  | .error _ => .error .truthValueExpected

def truth : Json → Except IssueKind Bool
  | .bool value => .ok value
  | .string s => truthOfWord s
  | .integer n => truthOfInteger n
  | .float x => truthOfDouble x
  | _ => .error .truthValueExpected

/-! ### Fields of a record -/

variable {α : Type}

def ofResult (name : String) : Except IssueKind α → Validated α
  | .ok value => .valid value
  | .error kind => .issues [⟨some name, kind⟩]

/-- A field that has to be there. -/
def required (form : Json → Except IssueKind α) (fields : OrderedMap String Json) (name : String) :
    Validated α :=
  match fields.find? name with
  | some value => ofResult name (form value)
  | none => .issues [⟨some name, .missing⟩]

/-- A field that stands for its default when it is not there. -/
def optional (form : Json → Except IssueKind α) (fields : OrderedMap String Json) (name : String)
    (default : α) : Validated α :=
  match fields.find? name with
  | some value => ofResult name (form value)
  | none => .valid default

end Field
end ParameterConfig
