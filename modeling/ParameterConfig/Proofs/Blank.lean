import Mathlib.Data.List.TakeWhile
import ParameterConfig.Text.Blank

/-!
# Taking blanks off

Nothing is left of a text just when all of it is blank, and a text without blanks comes out of any blanks put around it.
-/

namespace ParameterConfig
namespace Text

theorem trimStart_eq_nil_iff {cs : List Char} : trimStart cs = [] ↔ ∀ c ∈ cs, isBlank c = true := by
  simp [trimStart, List.dropWhile_eq_nil_iff]

theorem trimEnd_eq_nil_iff {cs : List Char} : trimEnd cs = [] ↔ ∀ c ∈ cs, isBlank c = true := by
  simp [trimEnd, List.dropWhile_eq_nil_iff]

theorem trim_eq_nil_iff {cs : List Char} : trim cs = [] ↔ ∀ c ∈ cs, isBlank c = true := by
  unfold trim
  rw [trimEnd_eq_nil_iff]
  constructor
  · intro hall
    rw [← trimStart_eq_nil_iff]
    cases hrest : trimStart cs with
    | nil => rfl
    | cons c rest =>
      have hhead : isBlank c = false := by
        have hdrop : cs.dropWhile isBlank = c :: rest := hrest
        have hnot := List.head_dropWhile_not isBlank (l := cs) (by rw [hdrop]; simp)
        simpa [hdrop] using hnot
      rw [hrest] at hall
      rw [hall c List.mem_cons_self] at hhead
      cases hhead
  · intro hall c hc
    exact hall c ((List.dropWhile_sublist isBlank).mem hc)

theorem trimEnd_append {cs back : List Char} (hback : ∀ c ∈ back, isBlank c = true) :
    trimEnd (cs ++ back) = trimEnd cs := by
  unfold trimEnd
  rw [List.reverse_append, List.dropWhile_append_of_pos]
  intro c hc
  exact hback c (List.mem_reverse.mp hc)

theorem trim_eq_self {cs : List Char} (hcs : ∀ c ∈ cs, isBlank c = false) : trim cs = cs := by
  have hstart : trimStart cs = cs :=
    trimStart_eq_self fun c hc => hcs c (List.mem_of_mem_head? hc)
  have hend : trimStart cs.reverse = cs.reverse :=
    trimStart_eq_self fun c hc => hcs c (List.mem_reverse.mp (List.mem_of_mem_head? hc))
  unfold trim trimEnd
  rw [hstart]
  unfold trimStart at hend
  rw [hend, List.reverse_reverse]

theorem trim_between_blanks {front cs back : List Char} (hfront : ∀ c ∈ front, isBlank c = true)
    (hcs : ∀ c ∈ cs, isBlank c = false) (hback : ∀ c ∈ back, isBlank c = true) :
    trim (front ++ cs ++ back) = cs := by
  have hstart : trimStart (front ++ (cs ++ back)) = trimStart (cs ++ back) :=
    trimStart_append hfront
  cases cs with
  | nil =>
    rw [List.append_nil, trim_eq_nil_iff]
    exact fun c hc => (List.mem_append.mp hc).elim (hfront c) (hback c)
  | cons c rest =>
    have hhead : trimStart (c :: rest ++ back) = c :: rest ++ back := by
      refine trimStart_eq_self fun first hfirst => ?_
      rw [List.cons_append, List.head?_cons, Option.mem_some_iff] at hfirst
      exact hcs first (hfirst ▸ List.mem_cons_self)
    unfold trim
    rw [List.append_assoc, hstart, hhead, trimEnd_append hback]
    have hself : trim (c :: rest) = c :: rest := trim_eq_self hcs
    unfold trim at hself
    rwa [trimStart_eq_self fun first hfirst => hcs first (List.mem_of_mem_head? hfirst)] at hself

end Text

/-- A text of blanks, or of nothing. -/
def Blank (text : String) : Prop :=
  ∀ c ∈ text.toList, Text.isBlank c = true

end ParameterConfig
