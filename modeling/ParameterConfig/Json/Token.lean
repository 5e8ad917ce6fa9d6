import ParameterConfig.Json
import ParameterConfig.Text.Hex

/-!
# Tokens of the JSON format

The lexical layer of the strict JSON format: punctuation, texts in double quotes, and the words and numbers that are values by themselves. Texts hold no raw control characters and no escape of half a surrogate pair. The undefined and the infinite numbers have words of their own. A number whose whole part is longer than the limit is refused.
-/

namespace ParameterConfig
namespace Json

inductive Token where
  | openArray
  | closeArray
  | openObject
  | closeObject
  | comma
  | colon
  | text (value : String)
  | scalar (value : Json)
deriving Inhabited

namespace Token

/-! ### Texts -/

def isHighSurrogate (n : Nat) : Bool :=
  0xD800 ≤ n && n ≤ 0xDBFF

def isLowSurrogate (n : Nat) : Bool :=
  0xDC00 ≤ n && n ≤ 0xDFFF

def ofSurrogates (high low : Nat) : Char :=
  Char.ofNat (0x10000 + (high - 0xD800) * 0x400 + (low - 0xDC00))

/-- The letters of the escapes that stand for one character each. -/
def shortEscape? (c : Char) : Option Char :=
  if c = '"' then some '"'
  else if c = '\\' then some '\\'
  else if c = '/' then some '/'
  else if c = 'b' then some '\x08'
  else if c = 'f' then some '\x0c'
  else if c = 'n' then some '\n'
  else if c = 'r' then some '\r'
  else if c = 't' then some '\t'
  else none

/-- The escape of one UTF-16 unit, after its backslash. -/
def unit? : List Char → Option (Nat × List Char)
  | 'u' :: a :: b :: c :: d :: rest => (Text.hexQuad? a b c d).map fun n => (n, rest)
  | _ => none

/-- The second half of a surrogate pair, with its backslash. -/
def lowUnit? : List Char → Option (Nat × List Char)
  | '\\' :: rest =>
    match unit? rest with
    | some (n, rest) => if isLowSurrogate n then some (n, rest) else none
    | none => none
  | _ => none

/-- The character that an escape stands for, after its backslash. -/
def escape? (cs : List Char) : Option (Char × List Char) :=
  match unit? cs with
  | some (n, rest) =>
    if isHighSurrogate n then (lowUnit? rest).map fun low => (ofSurrogates n low.1, low.2)
    else if isLowSurrogate n then none
    else some (Char.ofNat n, rest)
  | none =>
    match cs with
    | c :: rest => (shortEscape? c).map fun meant => (meant, rest)
    | [] => none

theorem unit?_shorter {cs rest : List Char} {n : Nat} (hunit : unit? cs = some (n, rest)) :
    rest.length < cs.length := by
  unfold unit? at hunit
  split at hunit
  · obtain ⟨_, _, heq⟩ := Option.map_eq_some_iff.mp hunit
    obtain ⟨_, rfl⟩ := Prod.mk.inj heq
    simp only [List.length_cons]
    omega
  · cases hunit

theorem lowUnit?_shorter {cs rest : List Char} {n : Nat} (hunit : lowUnit? cs = some (n, rest)) :
    rest.length < cs.length := by
  unfold lowUnit? at hunit
  split at hunit
  · split at hunit
    · rename_i hrest
      split at hunit
      · have hshort := unit?_shorter hrest
        cases hunit
        simp only [List.length_cons]
        omega
      · cases hunit
    · cases hunit
  · cases hunit

theorem escape?_shorter {cs rest : List Char} {c : Char} (hescape : escape? cs = some (c, rest)) :
    rest.length < cs.length := by
  unfold escape? at hescape
  split at hescape
  · rename_i hunit
    have hshort := unit?_shorter hunit
    split at hescape
    · obtain ⟨low, hlow, heq⟩ := Option.map_eq_some_iff.mp hescape
      have hshorter := lowUnit?_shorter hlow
      obtain ⟨_, rfl⟩ := Prod.mk.inj heq
      omega
    · split at hescape
      · cases hescape
      · obtain ⟨_, rfl⟩ := Prod.mk.inj (Option.some.inj hescape)
        exact hshort
  · split at hescape
    · obtain ⟨_, _, heq⟩ := Option.map_eq_some_iff.mp hescape
      obtain ⟨_, rfl⟩ := Prod.mk.inj heq
      exact Nat.lt_succ_self _
    · cases hescape

/-- The characters of a text up to its closing quote, and what follows the quote. -/
def textBody? (cs : List Char) : Option (List Char × List Char) :=
  match cs with
  | [] => none
  | c :: rest =>
    if c = '"' then some ([], rest)
    else if c = '\\' then
      match hescape : escape? rest with
      | none => none
      | some (meant, after) =>
        have := escape?_shorter hescape
        (textBody? after).map fun body => (meant :: body.1, body.2)
    else if c.toNat < 0x20 then none
    else (textBody? rest).map fun body => (c :: body.1, body.2)
termination_by cs.length
decreasing_by all_goals (simp only [List.length_cons]; omega)

/-! ### Numbers -/

def isAsciiDigit (c : Char) : Bool :=
  '0' ≤ c && c ≤ '9'

/-- The number that a run of digits writes. -/
def decimal (digits : List Char) : Nat :=
  digits.foldl (fun n c => n * 10 + (c.toNat - '0'.toNat)) 0

def spanDigits (cs : List Char) : List Char × List Char :=
  cs.span isAsciiDigit

/-- The whole part of a number: a lone zero, or digits that do not start with zero. -/
def wholePart? (cs : List Char) : Option (List Char × List Char) :=
  match cs with
  | [] => none
  | c :: rest =>
    if c = '0' then some (['0'], rest)
    else if isAsciiDigit c then some (spanDigits cs)
    else none

/-- At least one digit. -/
def someDigits? (cs : List Char) : Option (List Char × List Char) :=
  let (digits, rest) := spanDigits cs
  if digits.isEmpty then none else some (digits, rest)

/-- A point starts a fraction, which then must follow. -/
def fractionPart? : List Char → Option (Option (List Char) × List Char)
  | '.' :: rest => (someDigits? rest).map fun part => (some part.1, part.2)
  | cs => some (none, cs)

/-- A letter e starts an exponent, which then must follow. -/
def exponentPart? : List Char → Option (Option Int × List Char)
  | c :: rest =>
    if c = 'e' || c = 'E' then
      let (negative, rest) := match rest with
        | '-' :: rest => (true, rest)
        | '+' :: rest => (false, rest)
        | rest => (false, rest)
      (someDigits? rest).map fun part =>
        let n : Int := decimal part.1
        (some (if negative then -n else n), part.2)
    else some (none, c :: rest)
  | [] => some (none, [])

/-- The number whose sign has been read. -/
def unsignedNumber? (wholeLimit : Nat) (negative : Bool) (cs : List Char) :
    Option (Json × List Char) := do
  let (whole, rest) ← wholePart? cs
  if wholeLimit < whole.length + (if negative then 1 else 0) then none
  else
    let (fraction, rest) ← fractionPart? rest
    let (exponent, rest) ← exponentPart? rest
    match fraction, exponent with
    | none, none =>
      let n : Int := decimal whole
      return (.integer (if negative then -n else n), rest)
    | fraction, exponent =>
      let places := fraction.getD []
      let digits := decimal (whole ++ places)
      return (.float (Double.ofDecimal negative digits (exponent.getD 0 - places.length)), rest)

/-! ### The next token -/

/-- The value words of the format. -/
def words : List (List Char × Json) :=
  [("null".toList, .null), ("true".toList, .bool true), ("false".toList, .bool false),
   ("NaN".toList, .float .notANumber), ("Infinity".toList, .float (.infinite false)),
   ("-Infinity".toList, .float (.infinite true))]

def word? (cs : List Char) : Option (Json × List Char) :=
  (words.find? fun entry => entry.1.isPrefixOf cs).map fun entry =>
    (entry.2, cs.drop entry.1.length)

def number? (wholeLimit : Nat) : List Char → Option (Json × List Char)
  | '-' :: rest => unsignedNumber? wholeLimit true rest
  | cs => unsignedNumber? wholeLimit false cs

def punctuation? (c : Char) : Option Token :=
  if c = '[' then some .openArray
  else if c = ']' then some .closeArray
  else if c = '\x7b' then some .openObject
  else if c = '\x7d' then some .closeObject
  else if c = ',' then some .comma
  else if c = ':' then some .colon
  else none

def next? (wholeLimit : Nat) (cs : List Char) : Option (Token × List Char) :=
  match cs with
  | [] => none
  | c :: rest =>
    match punctuation? c with
    | some token => some (token, rest)
    | none =>
      if c = '"' then (textBody? rest).map fun body => (.text (String.ofList body.1), body.2)
      else
        match word? cs with
        | some (value, rest) => some (.scalar value, rest)
        | none => (number? wholeLimit cs).map fun read => (.scalar read.1, read.2)

/-- The four characters that may stand between tokens. -/
def isSpace (c : Char) : Bool :=
  c = ' ' || c = '\t' || c = '\n' || c = '\r'

/-- All tokens of a text. A token that would leave the rest as long as it was ends the reading. -/
def ofChars? (wholeLimit : Nat) (cs : List Char) : Option (List Token) :=
  match cs with
  | [] => some []
  | c :: rest =>
    if isSpace c then ofChars? wholeLimit rest
    else
      match next? wholeLimit (c :: rest) with
      | none => none
      | some (token, after) =>
        if after.length < (c :: rest).length then
          (ofChars? wholeLimit after).map (token :: ·)
        else none
termination_by cs.length
decreasing_by all_goals (simp only [List.length_cons] at *; omega)

end Token
end Json
end ParameterConfig
