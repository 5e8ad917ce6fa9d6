/-!
# Splitting text

A text is cut at every occurrence of a mark. The pieces hold no mark, and joined with it they give the text back.
-/

namespace ParameterConfig
namespace Text

def split (mark : Char) : List Char → List (List Char)
  | [] => [[]]
  | c :: rest =>
    if c = mark then [] :: split mark rest
    else
      match split mark rest with
      | [] => [[c]]
      | first :: more => (c :: first) :: more

theorem split_ne_nil (mark : Char) (cs : List Char) : split mark cs ≠ [] := by
  cases cs with
  | nil => simp [split]
  | cons c rest =>
    unfold split
    split
    · simp
    · split <;> simp

theorem intercalate_split (mark : Char) (cs : List Char) :
    [mark].intercalate (split mark cs) = cs := by
  induction cs with
  | nil => rfl
  | cons c rest ih =>
    unfold split
    have hne := split_ne_nil mark rest
    cases hrest : split mark rest with
    | nil => exact absurd hrest hne
    | cons first more =>
      rw [hrest] at ih
      split
      · rename_i hmark
        subst hmark
        cases more <;> simp_all [List.intercalate, List.intersperse]
      · cases more <;> simp_all [List.intercalate, List.intersperse]

theorem not_mem_of_mem_split {mark : Char} {cs piece : List Char} (hpiece : piece ∈ split mark cs) :
    mark ∉ piece := by
  induction cs generalizing piece with
  | nil =>
    simp only [split, List.mem_singleton] at hpiece
    simp [hpiece]
  | cons c rest ih =>
    unfold split at hpiece
    split at hpiece
    · rcases List.mem_cons.mp hpiece with rfl | hlater
      · simp
      · exact ih hlater
    · rename_i hmark
      cases hrest : split mark rest with
      | nil => exact absurd hrest (split_ne_nil mark rest)
      | cons first more =>
        rw [hrest] at hpiece
        rcases List.mem_cons.mp hpiece with rfl | hlater
        · have hfirst := ih (hrest ▸ List.mem_cons_self)
          simp only [List.mem_cons, not_or]
          exact ⟨fun heq => hmark heq.symm, hfirst⟩
        · exact ih (hrest ▸ List.mem_cons_of_mem _ hlater)

end Text
end ParameterConfig
