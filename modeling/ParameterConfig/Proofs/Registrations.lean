import ParameterConfig.Proofs.OrderedMap
import ParameterConfig.Registry.Run

/-!
# What a registry remembers

A registry is the map of all registrations that have succeeded, entered one after the other, and nothing else of what was done with it. So what a step answers can be told from the registrations before it: `Answers` tells it, the order of names coming from the first registration of each and all else from the last.
-/

namespace ParameterConfig
namespace Registry

variable {β : Type} {past : List (Step β)} {name : String} {backend : Backend Arguments β}

/-! ### Registrations -/

/-- What a step registers. A backend without a name is refused. -/
def Step.registration? : Step β → Option (String × Backend Arguments β)
  | .register name backend => if name.isEmpty then none else some (name, backend)
  | _ => none

def registrations (past : List (Step β)) : List (String × Backend Arguments β) :=
  past.filterMap Step.registration?

def registeredNames (past : List (Step β)) : List String :=
  (registrations past).map Prod.fst

/-- The backend was registered under the name, and none after it. -/
def Latest (past : List (Step β)) (name : String) (backend : Backend Arguments β) : Prop :=
  ∃ before later, registrations past = before ++ (name, backend) :: later ∧
    name ∉ later.map Prod.fst

theorem perform_unnamed (registry : Registry Arguments β) (backend : Backend Arguments β) :
    (Step.register "" backend).perform registry =
      (.error (.valueFault "Backend name is required"), registry) := rfl

theorem perform_named (registry : Registry Arguments β) (backend : Backend Arguments β)
    (hname : name ≠ "") :
    (Step.register name backend).perform registry =
      (.ok .registered, { backends := registry.backends.insert name backend }) := by
  have hgiven : ¬name.isEmpty = true := fun hempty => hname (String.isEmpty_iff.mp hempty)
  simp only [Step.perform, register, if_neg hgiven]

theorem registration?_named (backend : Backend Arguments β) (hname : name ≠ "") :
    (Step.register name backend).registration? = some (name, backend) :=
  if_neg fun hempty => hname (String.isEmpty_iff.mp hempty)

theorem perform_backends (registry : Registry Arguments β) (step : Step β) :
    (step.perform registry).2.backends =
      step.registration?.toList.foldl (fun map pair => map.insert pair.1 pair.2)
        registry.backends := by
  cases step with
  | register name backend =>
    by_cases hname : name = ""
    · subst hname
      rfl
    · rw [perform_named registry backend hname, registration?_named backend hname]
      rfl
  | create name arguments => rfl
  | list => rfl

theorem run_cons (registry : Registry Arguments β) (step : Step β) (rest : List (Step β)) :
    run registry (step :: rest) =
      ((step.perform registry).1 :: (run (step.perform registry).2 rest).1,
        (run (step.perform registry).2 rest).2) := rfl

theorem run_append (registry : Registry Arguments β) (first second : List (Step β)) :
    run registry (first ++ second) =
      ((run registry first).1 ++ (run (run registry first).2 second).1,
        (run (run registry first).2 second).2) := by
  induction first generalizing registry with
  | nil => rfl
  | cons step rest ih => rw [List.cons_append, run_cons, ih, run_cons, List.cons_append]

theorem length_run (registry : Registry Arguments β) (steps : List (Step β)) :
    (run registry steps).1.length = steps.length := by
  induction steps generalizing registry with
  | nil => rfl
  | cons step rest ih => rw [run_cons, List.length_cons, List.length_cons, ih]

theorem run_eq (past : List (Step β)) :
    (run {} past).2 = { backends := .ofList (registrations past) } := by
  induction past using List.reverseRecOn with
  | nil => rfl
  | append_singleton past step ih =>
    have hstep : (run {} (past ++ [step])).2 = (step.perform (run {} past).2).2 := by
      rw [run_append]
      rfl
    have hbackends := perform_backends (run {} past).2 step
    rw [← hstep, ih] at hbackends
    have hregistrations : registrations (past ++ [step]) =
        registrations past ++ step.registration?.toList := by
      unfold registrations
      rw [List.filterMap_append]
      cases hregistration : step.registration? <;> simp [hregistration]
    have hentered : (run {} (past ++ [step])).2.backends =
        .ofList (registrations (past ++ [step])) := by
      rw [hbackends, hregistrations, OrderedMap.ofList, OrderedMap.ofList, List.foldl_append]
    exact congrArg Registry.mk hentered

/-! ### What is found in the registry -/

theorem latest_iff :
    Latest past name backend ↔
      (OrderedMap.ofList (registrations past)).find? name = some backend := by
  rw [OrderedMap.find?_ofList, Option.map_eq_some_iff]
  constructor
  · rintro ⟨before, later, hsplit, hnone⟩
    refine ⟨(name, backend), List.find?_eq_some_iff_append.mpr ⟨by simp, later.reverse,
      before.reverse, by simp [hsplit], fun other hother => ?_⟩, rfl⟩
    have hname : other.1 ≠ name := by
      rintro rfl
      exact hnone (List.mem_map_of_mem (List.mem_reverse.mp hother))
    simpa using hname
  · rintro ⟨⟨found, _⟩, hfound, rfl⟩
    obtain ⟨hname, later, before, hsplit, hnone⟩ := List.find?_eq_some_iff_append.mp hfound
    obtain rfl : found = name := by simpa using hname
    refine ⟨before.reverse, later.reverse, ?_, fun hmem => ?_⟩
    · rw [← List.reverse_reverse (registrations past), hsplit]
      simp
    · obtain ⟨other, hother, hsame⟩ := List.mem_map.mp hmem
      have hdiffers := hnone other (List.mem_reverse.mp hother)
      rw [hsame] at hdiffers
      simp at hdiffers

theorem keys_run (past : List (Step β)) :
    (run {} past).2.backends.keys = (registeredNames past).eraseDups := by
  rw [run_eq, registeredNames, OrderedMap.keys_ofList]

/-! ### Answers -/

structure Listed (past : List (Step β)) (listed : List (String × Option String)) : Prop where
  /-- All names registered, each in the place where it came first. -/
  names : listed.map Prod.fst = (registeredNames past).eraseDups
  once : (listed.map Prod.fst).Nodup
  mem : ∀ name, name ∈ listed.map Prod.fst ↔ name ∈ registeredNames past
  descriptions : ∀ entry ∈ listed, ∃ backend, Latest past entry.1 backend ∧
    entry.2 = backend.description

/-- What a step answers after these steps. -/
inductive Answers (past : List (Step β)) : Step β → Except Failure (Answer β) → Prop
  | unnamed (backend : Backend Arguments β) :
      Answers past (.register "" backend) (.error (.ordinary .value "Backend name is required"))
  | registered {name : String} (backend : Backend Arguments β) (hname : name ≠ "") :
      Answers past (.register name backend) (.ok .registered)
  /-- The call keeps two names for itself, so that no argument of the constructor can have them. -/
  | taken {taken : String} (name : String) {arguments : Arguments}
      (hmem : taken ∈ arguments.named.keys) (htaken : taken ∈ ["self", "name"]) :
      Answers past (.create name arguments) (.error (.ordinary .type ""))
  | created {name : String} {arguments : Arguments} {backend : Backend Arguments β}
      (hfree : ∀ taken ∈ ["self", "name"], taken ∉ arguments.named.keys)
      (hlatest : Latest past name backend) :
      Answers past (.create name arguments) ((backend.construct arguments).map .created)
  | unknown {name : String} {arguments : Arguments} {names : List String}
      (hfree : ∀ taken ∈ ["self", "name"], taken ∉ arguments.named.keys)
      (hnever : name ∉ registeredNames past) (hsorted : names.Pairwise (· < ·))
      (hnames : ∀ other, other ∈ names ↔ other ∈ registeredNames past) :
      Answers past (.create name arguments)
        (.error (.library
          { kind := .configuration
            message := "Backend '" ++ name ++ "' is not registered"
            details := .ofList [("available", .string (",".intercalate names))] }))
  | listed {listed : List (String × Option String)} (hlisted : Listed past listed) :
      Answers past .list (.ok (.listed listed))

theorem listed_run (past : List (Step β)) : Listed past (run {} past).2.list := by
  have hnames : (run {} past).2.list.map Prod.fst = (registeredNames past).eraseDups := by
    rw [← keys_run, list, List.map_map]
    rfl
  refine ⟨hnames, ?_, fun name => ?_, fun entry hentry => ?_⟩
  · rw [hnames, ← keys_run]
    exact (run {} past).2.backends.keys_nodup
  · rw [hnames, List.mem_eraseDups]
  · obtain ⟨⟨name, backend⟩, hmem, rfl⟩ := List.mem_map.mp hentry
    rw [run_eq] at hmem
    exact ⟨backend, latest_iff.mpr (OrderedMap.find?_of_mem_entries hmem), rfl⟩

/-- The names told when one is unknown are sorted, and are those registered. -/
theorem available_run (past : List (Step β)) :
    (run {} past).2.available.Pairwise (· < ·) ∧
      ∀ other, other ∈ (run {} past).2.available ↔ other ∈ registeredNames past := by
  have hdistinct : ((run {} past).2.backends.keys.map id).Nodup := by
    rw [List.map_id]
    exact (run {} past).2.backends.keys_nodup
  refine ⟨pairwise_lt_mergeSort hdistinct, fun other => ?_⟩
  rw [available, List.mem_mergeSort, keys_run, List.mem_eraseDups]

theorem find?_run (past : List (Step β)) (name : String) :
    (∃ backend, (run {} past).2.backends.find? name = some backend ∧ Latest past name backend) ∨
      (run {} past).2.backends.find? name = none ∧ name ∉ registeredNames past := by
  cases hfound : (run {} past).2.backends.find? name with
  | none =>
    rw [OrderedMap.find?_eq_none, keys_run, List.mem_eraseDups] at hfound
    exact .inr ⟨rfl, hfound⟩
  | some backend =>
    rw [run_eq] at hfound
    exact .inl ⟨backend, rfl, latest_iff.mpr hfound⟩

theorem answers_perform (past : List (Step β)) (step : Step β) :
    Answers past step (step.perform (run {} past).2).1 := by
  cases step with
  | register name backend =>
    by_cases hname : name = ""
    · subst hname
      rw [perform_unnamed]
      exact .unnamed backend
    · rw [perform_named _ backend hname]
      exact .registered backend hname
  | create name arguments =>
    show Answers past (.create name arguments)
      (((run {} past).2.call name arguments).map .created)
    unfold call
    by_cases htaken : arguments.named.keys.any takenNames.contains = true
    · rw [if_pos htaken]
      obtain ⟨taken, hmem, hcontains⟩ := List.any_eq_true.mp htaken
      exact .taken name hmem (by simpa [takenNames] using hcontains)
    · rw [if_neg htaken]
      have hfree : ∀ taken ∈ ["self", "name"], taken ∉ arguments.named.keys := by
        intro taken hname hmem
        refine htaken (List.any_eq_true.mpr ⟨taken, hmem, ?_⟩)
        simpa [takenNames] using hname
      unfold create
      rcases find?_run past name with ⟨backend, hfound, hlatest⟩ | ⟨hnone, hnever⟩
      · rw [hfound]
        exact .created hfree hlatest
      · rw [hnone]
        obtain ⟨hsorted, hnames⟩ := available_run past
        exact .unknown hfree hnever hsorted hnames
  | list => exact .listed (listed_run past)

theorem perform_quiet {registry : Registry Arguments β} {step : Step β}
    (hquiet : ∀ name backend, step = .register name backend →
      ∃ failure, (step.perform registry).1 = .error failure) :
    (step.perform registry).2 = registry := by
  cases step with
  | register name backend =>
    obtain ⟨failure, hfailed⟩ := hquiet name backend rfl
    by_cases hname : name = ""
    · subst hname
      rfl
    · rw [perform_named registry backend hname] at hfailed
      cases hfailed
  | create name arguments => rfl
  | list => rfl

/-- The answers to the later steps are those that the registry left by the earlier ones gives. -/
theorem drop_run_append (past later : List (Step β)) :
    (run {} (past ++ later)).1.drop past.length = (run (run {} past).2 later).1 := by
  rw [run_append, List.drop_left' (length_run {} past)]

/-- Whatever is done with a registry, each step answers what the registrations before it say, and a step that registers nothing makes no difference to those after it. -/
theorem steps_answered (past : List (Step β)) (step : Step β) (later : List (Step β)) :
    ∃ answer, (run {} (past ++ step :: later)).1[past.length]? = some answer ∧
      Answers past step answer ∧
      ((∀ name backend, step = .register name backend → ∃ failure, answer = .error failure) →
        (run {} (past ++ step :: later)).1.drop (past.length + 1) =
          (run {} (past ++ later)).1.drop past.length) := by
  have hfrom : (run {} (past ++ step :: later)).1.drop past.length =
      (step.perform (run {} past).2).1 ::
        (run (step.perform (run {} past).2).2 later).1 := by
    rw [drop_run_append, run_cons]
  refine ⟨(step.perform (run {} past).2).1, ?_, answers_perform past step, fun hquiet => ?_⟩
  · rw [← List.head?_drop, hfrom]
    rfl
  · rw [← List.tail_drop, hfrom, List.tail_cons, perform_quiet hquiet, drop_run_append]

/-- An argument called `name` does not reach the constructor, which would have taken it. -/
theorem not_created_with_name :
    let backend : Backend Arguments Arguments := { construct := .ok }
    let arguments : Arguments :=
      { positional := [], named := .ofList [("name", .string "n")] }
    let steps : List (Step Arguments) := [.register "x" backend, .create "x" arguments]
    Latest (steps.take 1) "x" backend ∧
      (run {} steps).1[1]? = some (.error (.ordinary .type "")) ∧
      (run {} steps).1[1]? ≠ some ((backend.construct arguments).map .created) := by
  intro backend arguments steps
  have hanswer : (run {} steps).1[1]? = some (.error (.ordinary .type "")) := by rfl
  refine ⟨⟨[], [], by rfl, by simp⟩, hanswer, ?_⟩
  rw [hanswer]
  intro hsame
  cases Option.some.inj hsame

end Registry
end ParameterConfig
