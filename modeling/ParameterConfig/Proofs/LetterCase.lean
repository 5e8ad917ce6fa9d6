import ParameterConfig.Text.Lowercase

/-!
# The case of ASCII letters

Full lower case is the same for texts that differ only in the case of ASCII letters. A letter has the same small letter whichever its case, and to its neighbours it is a cased one in both, so that no sigma near it changes its form.
-/

namespace ParameterConfig
namespace Text

/-- The same text but for the case of ASCII letters. -/
def SameButCase (first second : String) : Prop :=
  first.toList.map Char.toLower = second.toList.map Char.toLower

def capitals : List Char :=
  ['A', 'B', 'C', 'D', 'E', 'F', 'G', 'H', 'I', 'J', 'K', 'L', 'M', 'N', 'O', 'P', 'Q', 'R', 'S',
   'T', 'U', 'V', 'W', 'X', 'Y', 'Z']

/-- Only the ASCII capitals have another letter for their ASCII small letter. -/
theorem toLower_eq_self_or (c : Char) : c.toLower = c ∨ c ∈ capitals := by
  have hcapitals : ∀ n < 91, 65 ≤ n → Char.ofNat n ∈ capitals := by decide
  by_cases hcapital : 'A'.val ≤ c.val ∧ c.val ≤ 'Z'.val
  · have hfirst : 65 ≤ c.toNat := hcapital.1
    have hlast : c.toNat ≤ 90 := hcapital.2
    have hletter := hcapitals c.toNat (by omega) hfirst
    rw [Char.ofNat_toNat] at hletter
    exact .inr hletter
  · exact .inl (dif_neg hcapital)

theorem isCased_toLower (c : Char) : isCased c.toLower = isCased c := by
  have hcapitals : capitals.all fun capital => isCased capital.toLower = isCased capital := by
    decide +kernel
  rcases toLower_eq_self_or c with hsame | hcapital
  · rw [hsame]
  · exact of_decide_eq_true (List.all_eq_true.mp hcapitals c hcapital)

theorem isCaseIgnorable_toLower (c : Char) : isCaseIgnorable c.toLower = isCaseIgnorable c := by
  have hcapitals : capitals.all fun capital =>
      isCaseIgnorable capital.toLower = isCaseIgnorable capital := by
    decide +kernel
  rcases toLower_eq_self_or c with hsame | hcapital
  · rw [hsame]
  · exact of_decide_eq_true (List.all_eq_true.mp hcapitals c hcapital)

theorem startsCased_toLower (cs : List Char) :
    startsCased (cs.map Char.toLower) = startsCased cs := by
  have hignorable : isCaseIgnorable ∘ Char.toLower = isCaseIgnorable :=
    funext isCaseIgnorable_toLower
  unfold startsCased
  rw [List.dropWhile_map, List.head?_map, Option.any_map, hignorable]
  simp only [isCased_toLower]

/-- Only a capital sigma looks at its neighbours. -/
theorem lowerChar_of_ne {c : Char} (hsigma : c ≠ 'Σ') (before after : List Char) :
    lowerChar before c after = lowerChar [] c [] := by
  unfold lowerChar
  rw [if_neg hsigma, if_neg hsigma]

theorem lowerChar_toLower (before : List Char) (c : Char) (after : List Char) :
    lowerChar (before.map Char.toLower) c.toLower (after.map Char.toLower) =
      lowerChar before c after := by
  have hcapitals : capitals.all fun capital => capital ≠ 'Σ' ∧ capital.toLower ≠ 'Σ' ∧
      lowerChar [] capital.toLower [] = lowerChar [] capital [] := by
    decide +kernel
  rcases toLower_eq_self_or c with hsame | hcapital
  · rw [hsame]
    unfold lowerChar
    rw [startsCased_toLower, startsCased_toLower]
  · obtain ⟨hsigma, hsmall, hletter⟩ :=
      of_decide_eq_true (List.all_eq_true.mp hcapitals c hcapital)
    rw [lowerChar_of_ne hsigma, lowerChar_of_ne hsmall, hletter]

theorem lowerFrom_toLower (before cs : List Char) :
    lowerFrom (before.map Char.toLower) (cs.map Char.toLower) = lowerFrom before cs := by
  induction cs generalizing before with
  | nil => rfl
  | cons c after ih =>
    rw [List.map_cons, lowerFrom, lowerFrom, lowerChar_toLower, ← List.map_cons, ih]

theorem lowercase_eq {first second : String} (hsame : SameButCase first second) :
    lowercase first = lowercase second := by
  unfold lowercase
  rw [← lowerFrom_toLower [] first.toList, ← lowerFrom_toLower [] second.toList]
  exact congrArg (fun cs => String.ofList (lowerFrom _ cs)) hsame

end Text
end ParameterConfig
