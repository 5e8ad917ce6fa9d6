import ParameterConfig.Proofs.Availability
import ParameterConfig.Proofs.Likeness
import ParameterConfig.Proofs.Paths
import ParameterConfig.Proofs.Request

/-!
# Applications and profiles apart

A request reads nothing but what stands below the paths of its profiles, so what is written elsewhere in the store makes no difference to it: not to its outcome, nor to the sessions opened, the calls made, the clients closed and the records logged. Paths of different applications or profiles have no name in common, as long as applications do not hold the mark that ends them. So parameters of one application or profile are out of sight for all others.
-/

namespace ParameterConfig

open Serving

/-! ### Actions that overlook a change -/

/-- The action does the same before a change of the state and after it, and leaves the change as it is. -/
def Overlooks {α : Type} (change : ServingState → ServingState) (action : Serving α) : Prop :=
  ∀ state, exec action (change state) = ((exec action state).1, change (exec action state).2)

namespace Overlooks

variable {α β : Type} {change : ServingState → ServingState} {action : Serving α}

theorem pure (value : α) : Overlooks change (pure value) :=
  fun _ => rfl

theorem ofExcept (result : Except Failure α) : Overlooks change (Serving.ofExcept result) := by
  intro state
  rw [exec_ofExcept, exec_ofExcept]

theorem bind {next : α → Serving β} (haction : Overlooks change action)
    (hnext : ∀ value, Overlooks change (next value)) : Overlooks change (action >>= next) := by
  intro state
  have hchanged := haction state
  cases hexec : exec action state with
  | mk outcome middle =>
    rw [hexec] at hchanged
    cases outcome with
    | error failure => rw [exec_bind_error hexec, exec_bind_error hchanged]
    | ok value => rw [exec_bind_ok hexec, exec_bind_ok hchanged, hnext value middle]

theorem get_bind {next : ServingState → Serving α}
    (hsame : ∀ state, next (change state) = next state)
    (hnext : ∀ state, Overlooks change (next state)) : Overlooks change (get >>= next) := by
  intro state
  rw [exec_bind_ok (exec_get _), exec_bind_ok (exec_get _), hsame state, hnext state state]

theorem modify {update : ServingState → ServingState}
    (hupdate : ∀ state, update (change state) = change (update state)) :
    Overlooks change (modify update) := by
  intro state
  show (Except.ok PUnit.unit, update (change state)) = _
  rw [hupdate]
  rfl

theorem ensuring {cleanup : Serving Unit} (haction : Overlooks change action)
    (hcleanup : Overlooks change cleanup) : Overlooks change (ensuring action cleanup) := by
  intro state
  rw [exec_ensuring, exec_ensuring, haction state, hcleanup]
  cases exec cleanup (exec action state).2 with
  | mk outcome after => cases outcome <;> rfl

/-- What an action does from every state is known, and the change does not show in it. -/
theorem of_runs {outcome : ServingState → Except Failure α} {events : ServingState → List Event}
    {after : ServingState → ServingState}
    (htrace : ∀ state trace, change { state with trace } = { change state with trace })
    (hruns : ∀ state, Runs action state (outcome state) (events state) (after state))
    (houtcome : ∀ state, outcome (change state) = outcome state)
    (hevents : ∀ state, events (change state) = events state)
    (hafter : ∀ state, after (change state) = change (after state)) : Overlooks change action := by
  intro state
  have hbefore := hruns state state.trace
  have hchanged := hruns (change state) state.trace
  rw [← htrace, houtcome, hevents, hafter, ← htrace] at hchanged
  rw [show ({ state with trace := state.trace } : ServingState) = state from rfl]
    at hbefore hchanged
  rw [hchanged, hbefore]

end Overlooks

/-! ### Stores that change elsewhere -/

namespace OrderedMap

variable {α : Type u} {β : Type v} [DecidableEq α] {chosen : α → Bool} {key : α}

theorem filter_insert (map : OrderedMap α β) (hkey : chosen key = false) (value : β) :
    (map.insert key value).entries.filter (fun entry => chosen entry.1) =
      map.entries.filter fun entry => chosen entry.1 := by
  unfold insert
  by_cases hpresent : key ∈ map.keys
  · rw [dif_pos hpresent]
    dsimp only [replaced]
    induction map.entries with
    | nil => rfl
    | cons entry rest ih =>
      rw [List.map_cons, List.filter_cons, List.filter_cons, ih]
      dsimp only
      by_cases hsame : entry.1 = key
      · rw [hsame, hkey]
        rfl
      · rw [if_neg hsame]
  · rw [dif_neg hpresent]
    simp [hkey]

theorem filter_erase (map : OrderedMap α β) (hkey : chosen key = false) :
    (map.erase key).entries.filter (fun entry => chosen entry.1) =
      map.entries.filter fun entry => chosen entry.1 := by
  unfold erase
  rw [List.filter_filter]
  refine List.filter_congr fun entry _ => ?_
  by_cases hsame : entry.1 = key
  · simp [hsame, hkey]
  · simp [hsame]

end OrderedMap

/-- A change of the store that leaves everything below a path as it is. -/
def KeepsBelow (path : String) (f : OrderedMap String String → OrderedMap String String) : Prop :=
  ∀ store, (f store).entries.filter (fun entry => Service.below path entry.1) =
    store.entries.filter fun entry => Service.below path entry.1

def Service.storeChanged (f : OrderedMap String String → OrderedMap String String)
    (service : Service) : Service :=
  { service with store := f service.store }

def ServingState.storeChanged (f : OrderedMap String String → OrderedMap String String)
    (state : ServingState) : ServingState :=
  { state with service := state.service.storeChanged f }

namespace Service

variable {f : OrderedMap String String → OrderedMap String String}

/-- Reading below a path that a change keeps clear of goes the same way before and after it. -/
theorem readPages_storeChanged {path : String} (hkeeps : KeepsBelow path f) (service : Service)
    (token : Option PageToken) :
    ((service.storeChanged f).readPages path token).requests =
        (service.readPages path token).requests ∧
      ((service.storeChanged f).readPages path token).outcome =
        (service.readPages path token).outcome ∧
      ((service.storeChanged f).readPages path token).service =
        (service.readPages path token).service.storeChanged f := by
  have hentries : (service.storeChanged f).entriesBelow path = service.entriesBelow path := by
    unfold entriesBelow storeChanged
    rw [hkeeps]
  have hsame : AlikeBelow Eq path (service.storeChanged f) service :=
    ⟨rfl, rfl, by rw [hentries]; exact List.forall₂_same.mpr fun _ _ => ⟨rfl, rfl⟩⟩
  obtain ⟨hrequests, houtcome, hservice⟩ := readPages_congr hsame token
  obtain ⟨script, hleft⟩ := readPages_service service path token
  refine ⟨hrequests, houtcome, ?_⟩
  rw [hservice, hleft]
  rfl

theorem connect_storeChanged (service : Service) (session : Session) :
    (service.storeChanged f).connect session =
      (service.connect session).map fun built => (built.1, built.2.storeChanged f) := by
  have hadmission : (service.storeChanged f).admission session = service.admission session :=
    admission_congr rfl rfl session
  rw [connect_eq, connect_eq, hadmission]
  cases service.admission session <;> rfl

end Service

/-! ### Requests that overlook such changes -/

open ServingState

variable {f : OrderedMap String String → OrderedMap String String}

theorem Overlooks.observe_eq {α : Type} {action : Serving α}
    (hoverlooks : Overlooks (storeChanged f) action) (state : ServingState)
    (trace : List Event) :
    (observe action { storeChanged f state with trace }).1 = (observe action state).1 := by
  have hchanged := hoverlooks { state with trace := [] }
  show Observed.mk (exec action (storeChanged f { state with trace := [] })).1
    (exec action (storeChanged f { state with trace := [] })).2.trace = _
  rw [hchanged]
  rfl

theorem Serving.overlooks_emit (events : List Event) : Overlooks (storeChanged f) (emit events) :=
  .modify fun _ => rfl

theorem Serving.overlooks_log (level : Log.Level) (event : String)
    (bound call : List (String × Json)) :
    Overlooks (storeChanged f) (log level event bound call) :=
  overlooks_emit _

namespace Clients

theorem overlooks_build (region : Option String) (source : Source) :
    Overlooks (storeChanged f) (build region source) := by
  unfold build
  refine (overlooks_emit _).bind fun _ state => ?_
  rw [exec_bind_ok (exec_get _), exec_bind_ok (exec_get _)]
  dsimp only [ServingState.storeChanged]
  rw [Service.connect_storeChanged]
  cases state.service.connect (source.session region) <;> rfl

theorem overlooks_forSource (region : Option String) (source : Source) :
    Overlooks (storeChanged f) (forSource region source) := by
  unfold forSource
  by_cases hkind : source.kind = .token
  · rw [if_pos hkind]
    exact overlooks_build region source
  · rw [if_neg hkind]
    refine .get_bind (fun state => rfl) fun state => ?_
    cases state.shared.find? (sharedKey source) with
    | some client => exact .pure client
    | none =>
      refine (overlooks_build region source).bind fun client => ?_
      exact .bind (.modify fun _ => rfl) fun _ => .pure client

theorem overlooks_heldFor (region : Option String) (source : Source) :
    Overlooks (storeChanged f) (heldFor region source) := by
  unfold heldFor
  refine .get_bind (fun state => rfl) fun state => ?_
  cases state.held.find? source with
  | some client => exact .pure client
  | none =>
    refine (overlooks_forSource region source).bind fun client => ?_
    exact .bind (.modify fun _ => rfl) fun _ => .pure client

theorem overlooks_release (source : Source) (client : Client) :
    Overlooks (storeChanged f) (release source client) := by
  unfold release
  by_cases hkind : source.kind = .token
  · rw [if_pos hkind]
    refine (overlooks_emit _).bind fun _ => ?_
    exact .get_bind (fun state => rfl) fun state => .ofExcept _
  · rw [if_neg hkind]
    exact .pure _

theorem overlooks_releaseAll (held : List (Source × Client)) :
    Overlooks (storeChanged f) (releaseAll held) := by
  induction held with
  | nil => exact .pure _
  | cons entry rest ih => exact (overlooks_release entry.1 entry.2).bind fun _ => ih

theorem overlooks_releaseHeld : Overlooks (storeChanged f) releaseHeld := by
  unfold releaseHeld
  refine .get_bind (fun state => rfl) fun state => ?_
  exact (overlooks_releaseAll state.held.entries).bind fun _ => .modify fun _ => rfl

end Clients

theorem Fetch.overlooks_held {path : String} (hkeeps : KeepsBelow path f)
    (region : Option String) (source : Source) :
    Overlooks (storeChanged f) (held region path source) := by
  unfold held
  refine (Clients.overlooks_heldFor region source).bind fun client => ?_
  refine .of_runs (fun _ _ => rfl)
    (fun state => (runs_read client path state).bind (runs_conclude path _ _))
    (fun state => ?_) (fun state => ?_) (fun state => ?_)
  all_goals
    obtain ⟨hrequests, houtcome, hservice⟩ := state.service.readPages_storeChanged hkeeps none
    dsimp only [ServingState.storeChanged]
  · rw [houtcome]
  · rw [hrequests, records_congr hrequests houtcome]
  · rw [hservice]

namespace Repository

variable {repository : Repository} {query : Query}

theorem overlooks_resolve : Overlooks (storeChanged f) repository.resolve :=
  .of_runs (fun _ _ => rfl) (runs_resolve repository) (fun _ => rfl) (fun _ => rfl) fun _ => rfl

theorem overlooks_serveProfile {profile : String}
    (hkeeps : KeepsBelow (repository.properties.path query.application profile) f) :
    Overlooks (storeChanged f) (repository.serveProfile query profile) := by
  unfold serveProfile
  refine overlooks_resolve.bind fun source => ?_
  refine (Fetch.overlooks_held hkeeps _ source).bind fun parameters => ?_
  refine (Overlooks.ofExcept _).bind fun propertySource => ?_
  exact (overlooks_log _ _ _ _).bind fun _ => .pure propertySource

theorem overlooks_serveProfiles {profiles : List String}
    (hkeeps : ∀ profile ∈ profiles,
      KeepsBelow (repository.properties.path query.application profile) f) :
    Overlooks (storeChanged f) (repository.serveProfiles query profiles) := by
  induction profiles with
  | nil => exact .pure _
  | cons profile rest ih =>
    unfold serveProfiles
    refine (overlooks_serveProfile (hkeeps profile List.mem_cons_self)).bind fun _ => ?_
    refine (ih fun other hother => hkeeps other (List.mem_cons_of_mem _ hother)).bind fun _ => ?_
    exact .pure _

/-- A request overlooks all that is written clear of the paths of its profiles. -/
theorem overlooks_findOne
    (hkeeps : ∀ profile ∈ splitProfiles query.profiles,
      KeepsBelow (repository.properties.path query.application profile) f) :
    Overlooks (storeChanged f) (repository.findOne query) := by
  unfold findOne
  refine .bind (.modify fun _ => rfl) fun _ => ?_
  refine .bind ((overlooks_serveProfiles hkeeps).ensuring Clients.overlooks_releaseHeld) fun _ => ?_
  exact (overlooks_log _ _ _ _).bind fun _ => .pure _

/-! ### Writing out of sight -/

inductive WritesBelow (path : String) : Step → Prop
  | put {name : String} (hbelow : Service.below path name) (value : String) :
      WritesBelow path (.put name value)
  | delete {name : String} (hbelow : Service.below path name) : WritesBelow path (.delete name)

/-- A step that writes below a path keeps clear of every path that has no name in common with it. -/
theorem WritesBelow.exists_storeChanged {path : String} {step : Step}
    (hstep : WritesBelow path step) (repository : Repository) :
    ∃ f : OrderedMap String String → OrderedMap String String,
      (∀ clear, (∀ name, Service.below clear name → ¬Service.below path name) →
        KeepsBelow clear f) ∧
      ∀ state, (observe (step.perform repository) state).2 =
        { storeChanged f state with trace := [] } := by
  have hunseen : ∀ clear name, (∀ name, Service.below clear name → ¬Service.below path name) →
      Service.below path name → Service.below clear name = false :=
    fun clear name hclear hbelow => Bool.eq_false_iff.mpr fun hseen => hclear name hseen hbelow
  cases hstep with
  | @put name hbelow value =>
    exact ⟨(·.insert name value),
      fun clear hclear store => store.filter_insert (hunseen clear name hclear hbelow) value,
      fun state => congrArg Prod.snd
        (@runs_changeService (Service.storeChanged (·.insert name value)) state).observe⟩
  | @delete name hbelow =>
    exact ⟨(·.erase name),
      fun clear hclear store => store.filter_erase (hunseen clear name hclear hbelow),
      fun state => congrArg Prod.snd
        (@runs_changeService (Service.storeChanged (·.erase name)) state).observe⟩

/-- What is written below a path that has no name in common with those of a request is not seen by it. -/
theorem observe_findOne_run {path : String}
    (hclear : ∀ profile ∈ splitProfiles query.profiles, ∀ name,
      Service.below (repository.properties.path query.application profile) name →
        ¬Service.below path name)
    {changes : List Step} (hchanges : ∀ step ∈ changes, WritesBelow path step)
    (state : ServingState) :
    (observe (repository.findOne query) (repository.run changes state).2).1 =
      (observe (repository.findOne query) state).1 := by
  induction changes generalizing state with
  | nil => rfl
  | cons step rest ih =>
    obtain ⟨f, hkeeps, hchanged⟩ :=
      (hchanges step List.mem_cons_self).exists_storeChanged repository
    have hoverlooks : Overlooks (storeChanged f) (repository.findOne query) :=
      overlooks_findOne fun profile hprofile => hkeeps _ (hclear profile hprofile)
    rw [run_cons, ih (fun other hother => hchanges other (List.mem_cons_of_mem _ hother)),
      hchanged]
    exact hoverlooks.observe_eq state []

/-- Applications that do not hold the mark that ends them do not see each other's parameters, nor do their profiles: no name stands below the paths of two of them, and whatever is written or deleted below one path leaves all that is observed of a request for others as it is. -/
theorem applications_separate (repository : Repository) (application other otherProfile : String)
    (happlication : repository.properties.endMark ∉ application.toList)
    (hother : repository.properties.endMark ∉ other.toList)
    (hotherProfile : '/' ∉ otherProfile.toList) :
    (∀ profile, '/' ∉ profile.toList → (application, profile) ≠ (other, otherProfile) →
      ∀ name, Service.below (repository.properties.path application profile) name →
        ¬Service.below (repository.properties.path other otherProfile) name) ∧
    ∀ query : Query, query.application = application →
      (∀ profile ∈ splitProfiles query.profiles,
        '/' ∉ profile.toList ∧ (application, profile) ≠ (other, otherProfile)) →
      ∀ changes : List Step,
        (∀ step ∈ changes, WritesBelow (repository.properties.path other otherProfile) step) →
        ∀ state : ServingState,
          (observe (repository.findOne query) (repository.run changes state).2).1 =
            (observe (repository.findOne query) state).1 := by
  have hapart : ∀ profile, '/' ∉ profile.toList →
      (application, profile) ≠ (other, otherProfile) →
        ∀ name, Service.below (repository.properties.path application profile) name →
          ¬Service.below (repository.properties.path other otherProfile) name := by
    intro profile hprofile hne name hbelow hbelowOther
    obtain ⟨hsame, hsameProfile⟩ := Properties.eq_of_below happlication hother hprofile
      hotherProfile hbelow hbelowOther
    exact hne (Prod.ext hsame hsameProfile)
  refine ⟨hapart, fun query hquery hprofiles changes hchanges state => ?_⟩
  refine observe_findOne_run (fun profile hprofile => ?_) hchanges state
  obtain ⟨hslash, hne⟩ := hprofiles profile hprofile
  rw [hquery]
  exact hapart profile hslash hne

/-- Another application with a profile of the same name, and another profile of the same application. -/
theorem applications_separate_hyphened :
    let repository : Repository := { properties := { profileSeparator := "--" } }
    let query : Query := { application := "a", profiles := some "p,q" }
    let state : ServingState := { service := { store := .ofList [("/a--p/x", "1")] } }
    (observe (repository.findOne query)
          (repository.run [.put "/b--p/x" "2", .delete "/b--p/y"] state).2).1 =
        (observe (repository.findOne query) state).1 ∧
      (observe (repository.findOne query) (repository.run [.put "/a--r/x" "2"] state).2).1 =
        (observe (repository.findOne query) state).1 := by
  intro repository query state
  constructor
  · refine (applications_separate repository "a" "b" "p" (by decide) (by decide) (by decide)).2
      query rfl (by decide) _ (fun step hstep => ?_) state
    rcases List.mem_pair.mp hstep with rfl | rfl
    · exact .put (by decide) "2"
    · exact .delete (by decide)
  · refine (applications_separate repository "a" "a" "r" (by decide) (by decide) (by decide)).2
      query rfl (by decide) _ (fun step hstep => ?_) state
    obtain rfl := List.mem_singleton.mp hstep
    exact .put (by decide) "2"

end Repository
end ParameterConfig
