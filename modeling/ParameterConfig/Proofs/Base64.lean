import ParameterConfig.Base64
import ParameterConfig.Text.Blank

/-!
# Reading Base64 back

What is written group by group is read group by group: three octets become four letters and come back as they were, and the one or two octets of a last group are told apart by its equals signs. Since only whole groups are written, equals signs that got lost at the end can be filled up again.
-/

namespace ParameterConfig
namespace Base64

/-! ### Letters -/

theorem value?_letter : ∀ n < 64, value? (letter n) = some n := by
  decide

theorem letter_ne_fill : ∀ n < 64, letter n ≠ '=' := by
  decide

def IsLetter (c : Char) : Prop :=
  (∃ n < 64, c = letter n) ∨ c = '='

theorem isBlank_letter : ∀ n < 64, Text.isBlank (letter n) = false := by
  decide

theorem toNat_letter_lt : ∀ n < 64, (letter n).toNat < 0x80 := by
  decide

theorem IsLetter.isBlank {c : Char} (hletter : IsLetter c) : Text.isBlank c = false := by
  obtain ⟨n, hn, rfl⟩ | rfl := hletter
  · exact isBlank_letter n hn
  · decide

theorem IsLetter.toNat_lt {c : Char} (hletter : IsLetter c) : c.toNat < 0x80 := by
  obtain ⟨n, hn, rfl⟩ | rfl := hletter
  · exact toNat_letter_lt n hn
  · decide

theorem isLetter_of_mem_encode {octets : List UInt8} {c : Char} (hc : c ∈ encode octets) :
    IsLetter c := by
  fun_induction encode octets with
  | case1 => cases hc
  | case2 a =>
    have ha := a.toNat_lt
    simp only [List.mem_cons, List.not_mem_nil, or_false] at hc
    rcases hc with rfl | rfl | rfl | rfl
    · exact .inl ⟨_, by omega, rfl⟩
    · exact .inl ⟨_, by omega, rfl⟩
    · exact .inr rfl
    · exact .inr rfl
  | case3 a b =>
    have ha := a.toNat_lt
    have hb := b.toNat_lt
    simp only [List.mem_cons, List.not_mem_nil, or_false] at hc
    rcases hc with rfl | rfl | rfl | rfl
    · exact .inl ⟨_, by omega, rfl⟩
    · exact .inl ⟨_, by omega, rfl⟩
    · exact .inl ⟨_, by omega, rfl⟩
    · exact .inr rfl
  | case4 a b c' rest ih =>
    have ha := a.toNat_lt
    have hb := b.toNat_lt
    have hc' := c'.toNat_lt
    simp only [List.mem_cons] at hc
    rcases hc with rfl | rfl | rfl | rfl | hrest
    · exact .inl ⟨_, by omega, rfl⟩
    · exact .inl ⟨_, by omega, rfl⟩
    · exact .inl ⟨_, by omega, rfl⟩
    · exact .inl ⟨_, by omega, rfl⟩
    · exact ih hrest

/-! ### Groups -/

theorem quad?_letters (a b c : UInt8) :
    quad? (letter (a.toNat / 4)) (letter (a.toNat % 4 * 16 + b.toNat / 16))
      (letter (b.toNat % 16 * 4 + c.toNat / 64)) (letter (c.toNat % 64)) = some [a, b, c] := by
  have ha := a.toNat_lt
  have hb := b.toNat_lt
  have hc := c.toNat_lt
  have hfirst : a.toNat / 4 * 4 + (a.toNat % 4 * 16 + b.toNat / 16) / 16 = a.toNat := by omega
  have hsecond : (a.toNat % 4 * 16 + b.toNat / 16) % 16 * 16 +
      (b.toNat % 16 * 4 + c.toNat / 64) / 4 = b.toNat := by omega
  have hthird : (b.toNat % 16 * 4 + c.toNat / 64) % 4 * 64 + c.toNat % 64 = c.toNat := by omega
  unfold quad?
  rw [value?_letter _ (by omega), value?_letter _ (by omega), value?_letter _ (by omega),
    value?_letter _ (by omega)]
  simp only [Option.bind_eq_bind, Option.bind_some, Option.pure_def, hfirst, hsecond, hthird,
    UInt8.ofNat_toNat]

theorem triple?_letters (a b : UInt8) :
    triple? (letter (a.toNat / 4)) (letter (a.toNat % 4 * 16 + b.toNat / 16))
      (letter (b.toNat % 16 * 4)) = some [a, b] := by
  have ha := a.toNat_lt
  have hb := b.toNat_lt
  have hfirst : a.toNat / 4 * 4 + (a.toNat % 4 * 16 + b.toNat / 16) / 16 = a.toNat := by omega
  have hsecond : (a.toNat % 4 * 16 + b.toNat / 16) % 16 * 16 + b.toNat % 16 * 4 / 4 =
      b.toNat := by omega
  unfold triple?
  rw [value?_letter _ (by omega), value?_letter _ (by omega), value?_letter _ (by omega)]
  simp only [Option.bind_eq_bind, Option.bind_some, Option.pure_def, hfirst, hsecond,
    UInt8.ofNat_toNat]

theorem pair?_letters (a : UInt8) :
    pair? (letter (a.toNat / 4)) (letter (a.toNat % 4 * 16)) = some [a] := by
  have ha := a.toNat_lt
  have hfirst : a.toNat / 4 * 4 + a.toNat % 4 * 16 / 16 = a.toNat := by omega
  unfold pair?
  rw [value?_letter _ (by omega), value?_letter _ (by omega)]
  simp only [Option.bind_eq_bind, Option.bind_some, Option.pure_def, hfirst, UInt8.ofNat_toNat]

/-! ### Texts -/

theorem length_encode (octets : List UInt8) : (encode octets).length % 4 = 0 := by
  fun_induction encode octets with
  | case1 => rw [List.length_nil]
  | case2 => simp only [List.length_cons, List.length_nil]
  | case3 => simp only [List.length_cons, List.length_nil]
  | case4 a b c rest ih =>
    simp only [List.length_cons]
    omega

theorem count_letter {n : Nat} {cs : List Char} (hn : n < 64) :
    (letter n :: cs).count '=' = cs.count '=' :=
  List.count_cons_of_ne (letter_ne_fill n hn)

theorem count_fill_encode_le (octets : List UInt8) : (encode octets).count '=' ≤ 2 := by
  fun_induction encode octets with
  | case1 => exact Nat.zero_le 2
  | case2 a =>
    have ha := a.toNat_lt
    rw [count_letter (by omega), count_letter (by omega)]
    decide
  | case3 a b =>
    have ha := a.toNat_lt
    have hb := b.toNat_lt
    rw [count_letter (by omega), count_letter (by omega), count_letter (by omega)]
    decide
  | case4 a b c rest ih =>
    have ha := a.toNat_lt
    have hb := b.toNat_lt
    have hc := c.toNat_lt
    rw [count_letter (by omega), count_letter (by omega), count_letter (by omega),
      count_letter (by omega)]
    exact ih

theorem not_isFill_encode {octets : List UInt8} (hne : octets ≠ []) :
    isFill (encode octets) = false := by
  have hfirst : ∀ a : UInt8, letter (a.toNat / 4) ≠ '=' := by
    intro a
    have ha := a.toNat_lt
    exact letter_ne_fill _ (by omega)
  fun_cases encode octets with
  | case1 => exact absurd rfl hne
  | case2 a => simp [isFill, hfirst a]
  | case3 a b => simp [isFill, hfirst a]
  | case4 a b c rest => simp [isFill, hfirst a]

theorem decode?_encode (octets : List UInt8) : decode? (encode octets) = some octets := by
  fun_induction encode octets with
  | case1 => rfl
  | case2 a =>
    unfold decode?
    rw [if_pos (by rfl), if_pos rfl]
    exact pair?_letters a
  | case3 a b =>
    have hb := b.toNat_lt
    unfold decode?
    rw [if_pos (by rfl), if_neg (letter_ne_fill _ (by omega))]
    exact triple?_letters a b
  | case4 a b c rest ih =>
    have hc := c.toNat_lt
    have hlast : letter (c.toNat % 64) ≠ '=' := letter_ne_fill _ (by omega)
    unfold decode?
    rw [if_neg (by simp [hlast]), quad?_letters]
    cases rest with
    | nil => rfl
    | cons d more =>
      simp only [Option.bind_eq_bind, Option.bind_some, not_isFill_encode (List.cons_ne_nil d more),
        ih]
      rfl

/-- Equals signs that are missing at the end are filled up. -/
theorem filledUp_of_append {kept : List Char} {octets : List UInt8} {dropped : Nat}
    (hkept : encode octets = kept ++ List.replicate dropped '=') :
    filledUp kept = encode octets := by
  have hlength := length_encode octets
  have hcount := count_fill_encode_le octets
  rw [hkept, List.length_append, List.length_replicate] at hlength
  rw [hkept, List.count_append, List.count_replicate_self] at hcount
  unfold filledUp
  rw [hkept]
  congr 2
  omega

end Base64
end ParameterConfig
