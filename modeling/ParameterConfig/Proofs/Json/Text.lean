import Mathlib.Data.List.Forall2
import ParameterConfig.Json.Printer
import ParameterConfig.Json.Token

/-!
# Texts read back

A character may be written in a text in several ways: as it is, by a short escape, by its code point, or as a surrogate pair. `Form` lists them, a text is read back from any of them, and what the printer writes is one of them.
-/

namespace ParameterConfig

namespace Text

/-! ### Hexadecimal digits -/

theorem hexValue?_digitChar : ∀ n < 16, hexValue? n.digitChar = some n := by
  decide

theorem hexDigits_one {n : Nat} (hn : n < 16) : hexDigits 1 n = [n.digitChar] := by
  unfold hexDigits
  rw [Nat.toDigits_of_lt_base hn]
  rfl

/-- A wider number has one more digit at its end. -/
theorem hexDigits_succ {width : Nat} (hwidth : 0 < width) (n : Nat) :
    hexDigits (width + 1) n = hexDigits width (n / 16) ++ [(n % 16).digitChar] := by
  unfold hexDigits
  by_cases hn : n < 16
  · rw [Nat.toDigits_of_lt_base hn, Nat.div_eq_of_lt hn, Nat.mod_eq_of_lt hn, Nat.toDigits_zero]
    obtain ⟨more, rfl⟩ : ∃ more, width = more + 1 := ⟨width - 1, by omega⟩
    simp only [List.length_singleton, Nat.add_sub_cancel, List.replicate_succ', List.append_assoc,
      List.singleton_append]
  · rw [Nat.toDigits_of_base_le (by decide) (by omega)]
    simp only [List.length_append, List.length_singleton, Nat.add_sub_add_right,
      List.append_assoc]

theorem hexDigits_four (n : Nat) (hn : n < 0x10000) :
    hexDigits 4 n = [(n / 4096).digitChar, (n / 256 % 16).digitChar, (n / 16 % 16).digitChar,
      (n % 16).digitChar] := by
  rw [hexDigits_succ (by decide), hexDigits_succ (by decide), hexDigits_succ (by decide),
    hexDigits_one (by omega)]
  simp only [Nat.div_div_eq_div_mul, Nat.reduceMul, List.cons_append, List.nil_append]

theorem hexQuad?_digits (n : Nat) (hn : n < 0x10000) :
    hexQuad? (n / 4096).digitChar (n / 256 % 16).digitChar (n / 16 % 16).digitChar
      (n % 16).digitChar = some n := by
  have hsum : n / 4096 * 4096 + n / 256 % 16 * 256 + n / 16 % 16 * 16 + n % 16 = n := by omega
  unfold hexQuad?
  rw [hexValue?_digitChar _ (by omega), hexValue?_digitChar _ (by omega),
    hexValue?_digitChar _ (by omega), hexValue?_digitChar _ (by omega)]
  simp only [Option.bind_eq_bind, Option.bind_some, Option.pure_def, hsum]

end Text

namespace Json
namespace Token

/-! ### The forms of a character -/

/-- The letters of the short escapes, each with the character that its escape stands for. -/
def shortForms : List (Char × Char) :=
  [('"', '"'), ('\\', '\\'), ('/', '/'), ('b', '\x08'), ('f', '\x0c'), ('n', '\n'), ('r', '\r'),
   ('t', '\t')]

/-- The ways to write a character in a text. -/
inductive Form : Char → List Char → Prop
  | plain {c : Char} (hquote : c ≠ '"') (hbackslash : c ≠ '\\') (hcontrol : 0x20 ≤ c.toNat) :
      Form c [c]
  | short {letter c : Char} (hletter : (letter, c) ∈ shortForms) : Form c ['\\', letter]
  | code {a b c d : Char} {n : Nat} (hquad : Text.hexQuad? a b c d = some n)
      (hhigh : isHighSurrogate n = false) (hlow : isLowSurrogate n = false) :
      Form (Char.ofNat n) ['\\', 'u', a, b, c, d]
  | pair {a b c d a' b' c' d' : Char} {high low : Nat} (hfirst : Text.hexQuad? a b c d = some high)
      (hhigh : isHighSurrogate high = true) (hsecond : Text.hexQuad? a' b' c' d' = some low)
      (hlow : isLowSurrogate low = true) :
      Form (ofSurrogates high low) ['\\', 'u', a, b, c, d, '\\', 'u', a', b', c', d']

theorem textBody?_quote (rest : List Char) : textBody? ('"' :: rest) = some ([], rest) := by
  rw [textBody?, if_pos rfl]

theorem textBody?_escape {cs after : List Char} {meant : Char}
    (hescape : escape? cs = some (meant, after)) :
    textBody? ('\\' :: cs) = (textBody? after).map fun body => (meant :: body.1, body.2) := by
  rw [textBody?, if_neg (by decide), if_pos rfl]
  split
  · rename_i hnone
    rw [hescape] at hnone
    cases hnone
  · rename_i hsome
    rw [hescape] at hsome
    cases hsome
    rfl

theorem unit?_quad {a b c d : Char} {n : Nat} (hquad : Text.hexQuad? a b c d = some n)
    (rest : List Char) : unit? ('u' :: a :: b :: c :: d :: rest) = some (n, rest) := by
  simp only [unit?, hquad, Option.map_some]

theorem shortEscape?_of_mem {letter c : Char} (hletter : (letter, c) ∈ shortForms) :
    shortEscape? letter = some c := by
  have hall : shortForms.all fun form => shortEscape? form.1 = some form.2 := by decide
  exact of_decide_eq_true (List.all_eq_true.mp hall _ hletter)

theorem escape?_short {letter c : Char} (hletter : shortEscape? letter = some c)
    (rest : List Char) : escape? (letter :: rest) = some (c, rest) := by
  have hunit : unit? (letter :: rest) = none := by
    unfold unit?
    split
    · rename_i heq
      obtain ⟨rfl, _⟩ := List.cons.inj heq
      cases hletter
    · rfl
  simp only [escape?, hunit, hletter, Option.map_some]

theorem escape?_code {a b c d : Char} {n : Nat} (hquad : Text.hexQuad? a b c d = some n)
    (hhigh : isHighSurrogate n = false) (hlow : isLowSurrogate n = false) (rest : List Char) :
    escape? ('u' :: a :: b :: c :: d :: rest) = some (Char.ofNat n, rest) := by
  simp only [escape?, unit?_quad hquad, hhigh, hlow, Bool.false_eq_true, if_false]

theorem escape?_pair {a b c d a' b' c' d' : Char} {high low : Nat}
    (hfirst : Text.hexQuad? a b c d = some high) (hhigh : isHighSurrogate high = true)
    (hsecond : Text.hexQuad? a' b' c' d' = some low) (hlow : isLowSurrogate low = true)
    (rest : List Char) :
    escape? ('u' :: a :: b :: c :: d :: '\\' :: 'u' :: a' :: b' :: c' :: d' :: rest) =
      some (ofSurrogates high low, rest) := by
  simp only [escape?, unit?_quad hfirst, hhigh, lowUnit?, unit?_quad hsecond, hlow, if_true,
    Option.map_some]

theorem Form.textBody? {c : Char} {cs : List Char} (hform : Form c cs) (rest : List Char) :
    textBody? (cs ++ rest) = (textBody? rest).map fun body => (c :: body.1, body.2) := by
  cases hform with
  | plain hquote hbackslash hcontrol =>
    rw [List.singleton_append, Token.textBody?, if_neg hquote, if_neg hbackslash,
      if_neg (by omega)]
  | short hletter => exact textBody?_escape (escape?_short (shortEscape?_of_mem hletter) rest)
  | code hquad hhigh hlow => exact textBody?_escape (escape?_code hquad hhigh hlow rest)
  | pair hfirst hhigh hsecond hlow =>
    exact textBody?_escape (escape?_pair hfirst hhigh hsecond hlow rest)

/-- A text is read whatever forms its characters are written in. -/
theorem textBody?_forms {cs : List Char} {written : List (List Char)}
    (hforms : List.Forall₂ Form cs written) (rest : List Char) :
    textBody? (written.flatten ++ '"' :: rest) = some (cs, rest) := by
  induction hforms with
  | nil => exact textBody?_quote rest
  | cons hform hforms ih =>
    rw [List.flatten_cons, List.append_assoc, hform.textBody?, ih]
    rfl

/-! ### What the printer writes -/

theorem form_unitEscape {n : Nat} (hn : n < 0x10000) (hhigh : isHighSurrogate n = false)
    (hlow : isLowSurrogate n = false) : Form (Char.ofNat n) (unitEscape n) := by
  unfold unitEscape
  rw [Text.hexDigits_four n hn]
  exact .code (Text.hexQuad?_digits n hn) hhigh hlow

theorem form_codeEscape (c : Char) : Form c (codeEscape c.toNat) := by
  have hvalid : c.toNat < 0xD800 ∨ 0xDFFF < c.toNat ∧ c.toNat < 0x110000 := c.valid
  unfold codeEscape
  by_cases hplane : c.toNat < 0x10000
  · rw [if_pos hplane]
    have hform := form_unitEscape hplane (by simp [isHighSurrogate]; omega)
      (by simp [isLowSurrogate]; omega)
    rwa [Char.ofNat_toNat] at hform
  · rw [if_neg hplane]
    have hmeant : ofSurrogates (0xD800 + (c.toNat - 0x10000) / 0x400)
        (0xDC00 + (c.toNat - 0x10000) % 0x400) = c := by
      have hcode : 0x10000 + (0xD800 + (c.toNat - 0x10000) / 0x400 - 0xD800) * 0x400 +
          (0xDC00 + (c.toNat - 0x10000) % 0x400 - 0xDC00) = c.toNat := by omega
      rw [ofSurrogates, hcode, Char.ofNat_toNat]
    have hhigh : 0xD800 + (c.toNat - 0x10000) / 0x400 < 0x10000 := by omega
    have hlow : 0xDC00 + (c.toNat - 0x10000) % 0x400 < 0x10000 := by omega
    have hform := Form.pair (Text.hexQuad?_digits _ hhigh) (by simp [isHighSurrogate]; omega)
      (Text.hexQuad?_digits _ hlow) (by simp [isLowSurrogate]; omega)
    rw [hmeant] at hform
    unfold unitEscape
    rw [Text.hexDigits_four _ hhigh, Text.hexDigits_four _ hlow]
    exact hform

theorem form_textChar (asciiOnly : Bool) (c : Char) : Form c (textChar asciiOnly c) := by
  unfold textChar
  by_cases hquote : c = '"'
  · rw [if_pos hquote, hquote]
    exact .short (by decide)
  rw [if_neg hquote]
  by_cases hbackslash : c = '\\'
  · rw [if_pos hbackslash, hbackslash]
    exact .short (by decide)
  rw [if_neg hbackslash]
  by_cases hnewline : c = '\n'
  · rw [if_pos hnewline, hnewline]
    exact .short (by decide)
  rw [if_neg hnewline]
  by_cases hreturn : c = '\r'
  · rw [if_pos hreturn, hreturn]
    exact .short (by decide)
  rw [if_neg hreturn]
  by_cases htab : c = '\t'
  · rw [if_pos htab, htab]
    exact .short (by decide)
  rw [if_neg htab]
  by_cases hbackspace : c = '\x08'
  · rw [if_pos hbackspace, hbackspace]
    exact .short (by decide)
  rw [if_neg hbackspace]
  by_cases hfeed : c = '\x0c'
  · rw [if_pos hfeed, hfeed]
    exact .short (by decide)
  rw [if_neg hfeed]
  by_cases hcontrol : c.toNat < 0x20
  · rw [if_pos hcontrol]
    have hplane : c.toNat < 0x10000 := by omega
    have hform := form_unitEscape hplane (by simp [isHighSurrogate]; omega)
      (by simp [isLowSurrogate]; omega)
    rwa [Char.ofNat_toNat] at hform
  rw [if_neg hcontrol]
  by_cases hascii : (asciiOnly && 0x7F ≤ c.toNat) = true
  · rw [if_pos hascii]
    exact form_codeEscape c
  rw [if_neg hascii]
  exact .plain hquote hbackslash (by omega)

theorem forms_textChar (asciiOnly : Bool) (cs : List Char) :
    List.Forall₂ Form cs (cs.map (textChar asciiOnly)) := by
  rw [List.forall₂_map_right_iff, List.forall₂_same]
  exact fun c _ => form_textChar asciiOnly c

end Token
end Json

end ParameterConfig
