import Mathlib.Data.List.TakeDrop
import Mathlib.Data.List.TakeWhile
import ParameterConfig.Text.Numeral

/-!
# Whole numbers written and read

The decimal text of a natural number is a whole number in text, and unless it is too long it is read back as that number: `integer_toString`. The proof follows the digits from the left: one more digit at the end of a text multiplies by ten and adds the digit.
-/

namespace ParameterConfig
namespace Text

theorem digitValue?_digitChar {n : Nat} (hn : n < 10) : digitValue? n.digitChar = some n := by
  have htable : ∀ digit : Fin 10, digitValue? (Nat.digitChar digit) = some digit.val := by decide
  exact htable ⟨n, hn⟩

theorem isSpace_of_isDigit {c : Char} (hc : c.isDigit = true) : isSpace c = false := by
  have hrange : 48 ≤ c.toNat ∧ c.toNat ≤ 57 := by
    simpa [Char.isDigit, UInt32.le_iff_toNat_le] using hc
  unfold isSpace
  rw [List.contains_eq_mem, decide_eq_false_iff_not]
  simp only [List.mem_cons, List.not_mem_nil, or_false]
  omega

theorem isDigit_of_isDigit {c : Char} (hc : c.isDigit = true) : isDigit c = true := by
  have hrange : 48 ≤ c.toNat ∧ c.toNat ≤ 57 := by
    simpa [Char.isDigit, UInt32.le_iff_toNat_le] using hc
  simp [isDigit, digitValue?, digitZeros, hrange.1, hrange.2]

theorem withoutSpace_eq_self {cs : List Char} (hcs : ∀ c ∈ cs, isSpace c = false) :
    withoutSpace cs = cs := by
  have hself : ∀ {cs : List Char}, (∀ c ∈ cs, isSpace c = false) → cs.dropWhile isSpace = cs := by
    intro cs hcs
    cases cs with
    | nil => rfl
    | cons c rest => rw [List.dropWhile_cons_of_neg (by simp [hcs c List.mem_cons_self])]
  rw [withoutSpace, hself hcs, hself fun c hc => hcs c (List.mem_reverse.mp hc), List.reverse_reverse]

theorem digitValues?_concat {cs : List Char} {c : Char} {values : List Nat} {value : Nat}
    (hcs : digitValues? cs = some values) (hc : digitValue? c = some value) :
    digitValues? (cs ++ [c]) = some (values ++ [value]) := by
  have hmark : c ≠ '_' := by
    rintro rfl
    have hnone : digitValue? '_' = none := by decide
    exact nomatch hnone.symm.trans hc
  fun_induction digitValues? cs generalizing values with
  | case1 => cases hcs
  | case2 first =>
    obtain ⟨found, hfirst, rfl⟩ := Option.map_eq_some_iff.mp hcs
    simp [digitValues?, hmark, hfirst, hc]
  | case3 first rest ih =>
    simp only [Option.bind_eq_bind, Option.bind_eq_some_iff] at hcs
    obtain ⟨found, hfirst, others, hrest, hvalues⟩ := hcs
    cases hvalues
    simp [digitValues?, hfirst, ih hrest]
  | case4 first rest hne hmarked ih =>
    simp only [Option.bind_eq_bind, Option.bind_eq_some_iff] at hcs
    obtain ⟨found, hfirst, others, hrest, hvalues⟩ := hcs
    cases hvalues
    obtain ⟨second, more, rfl⟩ := List.exists_cons_of_ne_nil hne
    have hsecond : second ≠ '_' := fun heq => hmarked more (by rw [heq])
    have hlater := ih hrest
    simp only [List.cons_append] at hlater ⊢
    simp [digitValues?, hsecond, hfirst, hlater]

/-- The values of the digits of a number, one for each digit, make the number. -/
theorem digitValues?_toDigits (n : Nat) :
    ∃ values, digitValues? (Nat.toDigits 10 n) = some values ∧
      values.length = (Nat.toDigits 10 n).length ∧
      values.foldl (fun n value => n * 10 + value) 0 = n := by
  induction n using Nat.strongRecOn with
  | ind n ih =>
    by_cases hsmall : n < 10
    · rw [Nat.toDigits_of_lt_base hsmall]
      exact ⟨[n], by simp [digitValues?, digitValue?_digitChar hsmall], rfl, by simp⟩
    · obtain ⟨values, hvalues, hlength, hmade⟩ := ih (n / 10) (by omega)
      have hlast := digitValue?_digitChar (Nat.mod_lt n (by omega : 0 < 10))
      rw [Nat.toDigits_of_base_le (by omega) (by omega)]
      refine ⟨values ++ [n % 10], digitValues?_concat hvalues hlast, by simp [hlength], ?_⟩
      rw [List.foldl_append, hmade, List.foldl_cons, List.foldl_nil]
      omega

theorem natural_toDigits {n : Nat} (hn : (Nat.toDigits 10 n).length ≤ mostDigits) :
    natural (Nat.toDigits 10 n) = .ok n := by
  obtain ⟨values, hvalues, hlength, hmade⟩ := digitValues?_toDigits n
  have hdigits : ∀ c ∈ Nat.toDigits 10 n, (isDigit c || c = '_') = true := by
    intro c hc
    rw [isDigit_of_isDigit (Nat.isDigit_of_mem_toDigits (by omega) (by omega) hc)]
    rfl
  rw [natural, List.span_eq_takeWhile_dropWhile, List.takeWhile_eq_self_iff.mpr hdigits,
    List.dropWhile_eq_nil_iff.mpr hdigits]
  dsimp only
  rw [hvalues]
  dsimp only
  rw [if_neg (by omega), hmade]
  rfl

/-- What is written for a natural number is read as that number. -/
theorem integer_toString {n : Nat} (hn : (Nat.toDigits 10 n).length ≤ mostDigits) :
    integer (toString n) = .ok (n : Int) := by
  have hdigits : ∀ c ∈ Nat.toDigits 10 n, c.isDigit = true :=
    fun c hc => Nat.isDigit_of_mem_toDigits (by omega) (by omega) hc
  have hspace := withoutSpace_eq_self fun c hc => isSpace_of_isDigit (hdigits c hc)
  rw [integer, Nat.toString_eq_repr, Nat.toList_repr, hspace]
  split
  case h_1 rest hsign => exact absurd (hdigits '-' (hsign ▸ List.mem_cons_self)) (by decide)
  case h_2 rest hsign => exact absurd (hdigits '+' (hsign ▸ List.mem_cons_self)) (by decide)
  case h_3 =>
    rw [natural_toDigits hn]
    rfl

end Text
end ParameterConfig
