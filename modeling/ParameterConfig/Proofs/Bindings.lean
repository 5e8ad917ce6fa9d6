import Mathlib.Data.List.Forall2
import Mathlib.Data.List.Induction
import ParameterConfig.Headers
import ParameterConfig.Proofs.LetterCase

/-!
# The binding that counts

Bindings nest, and of those in force only the innermost is consulted. It is the last one behind which all that was bound has been unbound again. In its headers a name is looked for in any case of its letters, and the first that is found counts whatever its value. `token_of_innermost` says so after any steps.
-/

namespace ParameterConfig
namespace Bindings

/-- Steps in which all that is bound is unbound again, and nothing else is. -/
inductive Balanced : List Step → Prop
  | nil : Balanced []
  | nest (headers : Option Headers) {inner rest : List Step} (hinner : Balanced inner)
      (hrest : Balanced rest) : Balanced (.bind headers :: (inner ++ .unbind :: rest))

/-- The headers were bound, and all that was bound after them has been unbound. -/
def Innermost (steps : List Step) (headers : Option Headers) : Prop :=
  ∃ before group, steps = before ++ .bind headers :: group ∧ Balanced group

variable {steps first second group : List Step} {headers : Option Headers} {wanted : String}

theorem after_append (bindings : Bindings) (first second : List Step) :
    bindings.after (first ++ second) = (bindings.after first).after second :=
  List.foldl_append

theorem Balanced.append (hfirst : Balanced first) (hsecond : Balanced second) :
    Balanced (first ++ second) := by
  induction hfirst with
  | nil => exact hsecond
  | nest headers hinner hrest ihInner ihRest =>
    rw [List.cons_append, List.append_assoc, List.cons_append]
    exact .nest headers hinner ihRest

theorem Balanced.after_eq (hgroup : Balanced group) (bindings : Bindings) :
    bindings.after group = bindings := by
  induction hgroup generalizing bindings with
  | nil => rfl
  | @nest headers inner rest hinner hrest ihInner ihRest =>
    calc bindings.after (.bind headers :: (inner ++ .unbind :: rest))
        = ((bindings.bind headers).after inner).unbind.after rest := after_append _ inner _
      _ = (bindings.bind headers).unbind.after rest := by rw [ihInner]
      _ = bindings := ihRest bindings

/-- What is in force was bound, outside of all that is balanced. -/
theorem exists_of_after_eq_cons {rest : Bindings} (hafter : after [] steps = headers :: rest) :
    ∃ before group, steps = before ++ .bind headers :: group ∧ Balanced group ∧
      after [] before = rest := by
  induction hlength : steps.length using Nat.strongRecOn generalizing steps headers rest with
  | ind length ih =>
    subst hlength
    rcases List.eq_nil_or_concat' steps with rfl | ⟨past, step, rfl⟩
    · cases hafter
    rw [after_append] at hafter
    rw [List.length_append, List.length_singleton] at ih
    cases step with
    | bind other =>
      obtain ⟨rfl, rfl⟩ := List.cons.inj hafter
      exact ⟨past, [], rfl, .nil, rfl⟩
    | unbind =>
      have htail : (after [] past).tail = headers :: rest := hafter
      obtain ⟨last, hpast⟩ : ∃ last, after [] past = last :: headers :: rest := by
        cases hpast : after [] past with
        | nil =>
          rw [hpast] at htail
          cases htail
        | cons last others =>
          rw [hpast] at htail
          exact ⟨last, congrArg (last :: ·) htail⟩
      obtain ⟨middle, inner, rfl, hinner, hmiddle⟩ := ih _ (Nat.lt_succ_self _) hpast rfl
      have hshorter : middle.length < (middle ++ .bind last :: inner).length + 1 := by
        rw [List.length_append]
        omega
      obtain ⟨before, outer, rfl, houter, hrest⟩ := ih _ hshorter hmiddle rfl
      refine ⟨before, outer ++ .bind last :: (inner ++ [.unbind]), ?_,
        houter.append (.nest last hinner .nil), hrest⟩
      simp only [List.append_assoc, List.cons_append]

/-- After any steps the innermost binding is the one in front, and if nothing is in force there is none. -/
theorem innermost_iff : Innermost steps headers ↔ (after [] steps).head? = some headers := by
  constructor
  · rintro ⟨before, group, rfl, hgroup⟩
    have hfront : after [] (before ++ .bind headers :: group) =
        ((after [] before).bind headers).after group := after_append [] before _
    rw [hfront, hgroup.after_eq]
    rfl
  · intro hhead
    obtain ⟨rest, hafter⟩ := List.head?_eq_some_iff.mp hhead
    obtain ⟨before, group, hsteps, hgroup, _⟩ := exists_of_after_eq_cons hafter
    exact ⟨before, group, hsteps, hgroup⟩

/-! ### The value of a name -/

/-- The value that is found for a name in the headers bound, if any are. -/
inductive FirstValue (wanted : String) : Option Headers → Option String → Prop
  | unbound : FirstValue wanted none none
  | missing {headers : Headers}
      (hnone : ∀ entry ∈ headers.entries, Text.lowercase entry.1 ≠ Text.lowercase wanted) :
      FirstValue wanted (some headers) none
  | first {headers : Headers} {front back : List (String × Option String)} {name : String}
      {value : Option String} (hentries : headers.entries = front ++ (name, value) :: back)
      (hname : Text.lowercase name = Text.lowercase wanted)
      (hfront : ∀ entry ∈ front, Text.lowercase entry.1 ≠ Text.lowercase wanted) :
      FirstValue wanted (some headers) value

theorem firstValue_value? (headers : Headers) (wanted : String) :
    FirstValue wanted (some headers) (headers.value? wanted) := by
  unfold Headers.value?
  dsimp only
  cases hfound : headers.entries.find? fun entry =>
      decide (Text.lowercase entry.1 = Text.lowercase wanted) with
  | none =>
    rw [List.find?_eq_none] at hfound
    exact .missing (by simpa using hfound)
  | some entry =>
    obtain ⟨hname, front, back, hentries, hfront⟩ := List.find?_eq_some_iff_append.mp hfound
    exact .first hentries (by simpa using hname) (by simpa using hfront)

/-! ### Letter case -/

/-- The same values under the same names but for the case of ASCII letters. -/
def SameHeaders (first second : Headers) : Prop :=
  List.Forall₂ (fun entry other => Text.SameButCase entry.1 other.1 ∧ entry.2 = other.2)
    first.entries second.entries

inductive Step.Alike : Step → Step → Prop
  | bind {first second : Option Headers} (hsame : Option.Rel SameHeaders first second) :
      Alike (.bind first) (.bind second)
  | unbind : Alike .unbind .unbind

theorem SameHeaders.value?_eq {first second : Headers} {other : String}
    (hsame : SameHeaders first second) (hwanted : Text.SameButCase wanted other) :
    first.value? wanted = second.value? other := by
  unfold Headers.value?
  dsimp only
  rw [Text.lowercase_eq hwanted]
  unfold SameHeaders at hsame
  generalize first.entries = entries, second.entries = twins at hsame ⊢
  induction hsame with
  | nil => rfl
  | @cons entry twin rest others htwin hrest ih =>
    rw [List.find?_cons, List.find?_cons, Text.lowercase_eq htwin.1]
    cases decide (Text.lowercase twin.1 = Text.lowercase other) with
    | false => exact ih
    | true => exact htwin.2

theorem value?_alike {bindings twins : Bindings} {other : String}
    (hbindings : List.Forall₂ (Option.Rel SameHeaders) bindings twins)
    (hwanted : Text.SameButCase wanted other) : bindings.value? wanted = twins.value? other := by
  cases hbindings with
  | nil => rfl
  | cons hfirst hrest =>
    cases hfirst with
    | none => rfl
    | some hsame => exact hsame.value?_eq hwanted

theorem after_alike {others : List Step} {bindings twins : Bindings}
    (hsteps : List.Forall₂ Step.Alike steps others)
    (hbindings : List.Forall₂ (Option.Rel SameHeaders) bindings twins) :
    List.Forall₂ (Option.Rel SameHeaders) (bindings.after steps) (twins.after others) := by
  induction hsteps generalizing bindings twins with
  | nil => exact hbindings
  | cons hstep hrest ih =>
    cases hstep with
    | bind hsame => exact ih (.cons hsame hbindings)
    | unbind =>
      refine ih ?_
      cases hbindings with
      | nil => exact .nil
      | cons hfirst hothers => exact hothers

/-! ### The token of a request -/

/-- The token that a request brings after steps, in the header of this name. -/
def tokenAfter (steps : List Step) (wanted : String) : Option String :=
  ((TokenProvider.header wanted).next (after [] steps)).1

theorem firstValue_tokenAfter (hheaders : Innermost steps headers) (wanted : String) :
    FirstValue wanted headers (tokenAfter steps wanted) := by
  obtain ⟨rest, hafter⟩ := List.head?_eq_some_iff.mp (innermost_iff.mp hheaders)
  unfold tokenAfter
  rw [hafter]
  cases headers with
  | none => exact .unbound
  | some headers => exact firstValue_value? headers wanted

theorem tokenAfter_of_none (hnone : ∀ headers, ¬Innermost steps headers) (wanted : String) :
    tokenAfter steps wanted = none := by
  have hafter : after [] steps = [] := by
    cases hafter : after [] steps with
    | nil => rfl
    | cons headers rest => exact absurd (innermost_iff.mpr (by rw [hafter]; rfl)) (hnone headers)
  unfold tokenAfter
  rw [hafter]
  rfl

theorem tokenAfter_alike {others : List Step} {other : String}
    (hsteps : List.Forall₂ Step.Alike steps others) (hwanted : Text.SameButCase wanted other) :
    tokenAfter steps wanted = tokenAfter others other :=
  value?_alike (after_alike hsteps .nil) hwanted

/-- After any steps the token is the first value of its header in the innermost binding, whatever the case of ASCII letters, and steps that are balanced make no difference. -/
theorem token_of_innermost (wanted : String) (steps : List Step) :
    ((∀ headers, ¬Innermost steps headers) → tokenAfter steps wanted = none) ∧
    (∀ headers, Innermost steps headers → FirstValue wanted headers (tokenAfter steps wanted)) ∧
    (∀ others other, List.Forall₂ Step.Alike steps others → Text.SameButCase wanted other →
      tokenAfter others other = tokenAfter steps wanted) ∧
    ∀ before group later, steps = before ++ later → Balanced group →
      tokenAfter (before ++ group ++ later) wanted = tokenAfter steps wanted := by
  refine ⟨fun hnone => tokenAfter_of_none hnone wanted,
    fun headers hheaders => firstValue_tokenAfter hheaders wanted,
    fun others other hsteps hwanted => (tokenAfter_alike hsteps hwanted).symm, ?_⟩
  rintro before group later rfl hgroup
  unfold tokenAfter
  rw [after_append, after_append, hgroup.after_eq, ← after_append]

/-- A header without a value hides one with another letter case behind it and those bound further out. -/
theorem token_of_innermost_hidden :
    let outer : Headers := .ofList [("X-Config-Token", some "outer")]
    let inner : Headers := .ofList [("x-config-token", none), ("X-CONFIG-TOKEN", some "late")]
    let closed : List Step := [.bind (some outer), .unbind]
    let steps : List Step := [.bind (some outer), .bind (some inner)]
    Innermost steps (some inner) ∧
      FirstValue "X-Config-Token" (some inner) (tokenAfter steps "X-Config-Token") ∧
      Text.SameButCase "X-Config-Token" "x-cONFIG-token" ∧
      tokenAfter steps "x-cONFIG-token" = tokenAfter steps "X-Config-Token" ∧
      Balanced closed ∧ tokenAfter (steps ++ closed) "X-Config-Token" = none := by
  intro outer inner closed steps
  obtain ⟨_, hfirst, hcase, hinserted⟩ := token_of_innermost "X-Config-Token" steps
  have hinner : Innermost steps (some inner) := ⟨[.bind (some outer)], [], rfl, .nil⟩
  have hwanted : Text.SameButCase "X-Config-Token" "x-cONFIG-token" := by
    unfold Text.SameButCase
    decide
  have hsame : ∀ headers : Headers, SameHeaders headers headers :=
    fun headers => List.forall₂_same.mpr fun entry _ => ⟨rfl, rfl⟩
  have hsteps : List.Forall₂ Step.Alike steps steps :=
    .cons (.bind (.some (hsame outer))) (.cons (.bind (.some (hsame inner))) .nil)
  have hclosed : Balanced closed := .nest (some outer) .nil .nil
  have hnull : tokenAfter steps "X-Config-Token" = none := by decide +kernel
  have hafter := hinserted steps closed [] (List.append_nil steps).symm hclosed
  rw [List.append_nil, hnull] at hafter
  exact ⟨hinner, hfirst _ hinner, hwanted, hcase steps _ hsteps hwanted, hclosed, hafter⟩

end Bindings
end ParameterConfig
