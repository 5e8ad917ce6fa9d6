import ParameterConfig.Proofs.Segment
import ParameterConfig.Repository.Run

/-!
# Requests and runs

The segments of a request can be looked at one by one, each with the state it starts from and the events it adds. The events of a request are those of its segments, then the closing of clients, then at most one record. Statements about whole runs are proved by `run_induction`: what the steps between requests keep and what each request keeps is kept by every run.
-/

namespace ParameterConfig
namespace Repository

open Serving

variable {repository : Repository} {query : Query}

/-- A segment of a request as an observer who also sees the states meets it. -/
structure Segment where
  profile : String
  before : ServingState
  outcome : Except Failure PropertySource
  events : List Event
  after : ServingState

/-- The segments that are started for these profiles, up to the first that fails. -/
def segmentsFrom (repository : Repository) (query : Query) :
    List String → ServingState → List Segment
  | [], _ => []
  | profile :: rest, before =>
    let (observed, after) := observe (repository.serveProfile query profile) before
    let segment : Segment :=
      { profile, before, outcome := observed.outcome, events := observed.events, after }
    match observed.outcome with
    | .ok _ => segment :: segmentsFrom repository query rest after
    | .error _ => [segment]

def segments (repository : Repository) (query : Query) (before : ServingState) : List Segment :=
  segmentsFrom repository query (splitProfiles query.profiles) { before with held := ∅ }

/-- All that serving the profiles one after the other can come to: the segments, the clients built, the outcome, and the state left. -/
inductive ServedAll (repository : Repository) (query : Query) :
    List String → ServingState → List Segment → List Client →
      Except Failure (List PropertySource) → ServingState → Prop
  | nil {state : ServingState} : ServedAll repository query [] state [] [] (.ok []) state
  | stop {profile : String} {rest : List String} {state middle : ServingState} {failure : Failure}
      {events : List Event} {built : List Client}
      (hserved : Served repository query profile state (.error failure) events built middle) :
      ServedAll repository query (profile :: rest) state
        [{ profile, before := state, outcome := .error failure, events
           after := { middle with trace := events } }]
        built (.error failure) { middle with trace := events }
  | next {profile : String} {rest : List String} {state middle after : ServingState}
      {propertySource : PropertySource} {events : List Event} {built more : List Client}
      {later : List Segment} {outcome : Except Failure (List PropertySource)}
      (hserved : Served repository query profile state (.ok propertySource) events built middle)
      (hrest : ServedAll repository query rest { middle with trace := events } later more outcome
        after) :
      ServedAll repository query (profile :: rest) state
        ({ profile, before := state, outcome := .ok propertySource, events
           after := { middle with trace := events } } :: later)
        (built ++ more) (outcome.map (propertySource :: ·)) after

theorem exists_servedAll (repository : Repository) (query : Query) (profiles : List String)
    (state : ServingState) :
    ∃ built outcome after,
      ServedAll repository query profiles state (segmentsFrom repository query profiles state)
        built outcome after ∧
      Runs (repository.serveProfiles query profiles) state outcome
        ((segmentsFrom repository query profiles state).flatMap Segment.events) after := by
  induction profiles generalizing state with
  | nil => exact ⟨_, _, _, .nil, Runs.pure _ _⟩
  | cons profile rest ih =>
    obtain ⟨outcome, events, built, middle, hserved, hruns⟩ :=
      exists_served repository query profile state
    unfold segmentsFrom serveProfiles
    rw [hruns.observe]
    cases outcome with
    | error failure =>
      refine ⟨_, _, _, .stop hserved, ?_⟩
      simp only [List.flatMap_cons, List.flatMap_nil, List.append_nil]
      exact Runs.bind_error hruns
    | ok propertySource =>
      obtain ⟨more, outcome, after, hall, hmore⟩ := ih { middle with trace := events }
      refine ⟨_, _, _, .next hserved hall, ?_⟩
      simp only [List.flatMap_cons]
      refine Runs.bind hruns ?_
      cases outcome with
      | error failure => exact Runs.bind_error hmore
      | ok more => exact Runs.bind_quiet hmore (Runs.pure _ _)

theorem exists_segment_first (repository : Repository) {profile : String} {rest : List String}
    (before : ServingState) (hprofiles : splitProfiles query.profiles = profile :: rest) :
    ∃ segment ∈ repository.segments query before,
      segment.profile = profile ∧ segment.before = { before with held := ∅ } := by
  unfold segments
  rw [hprofiles]
  unfold segmentsFrom
  cases observe (repository.serveProfile query profile) { before with held := ∅ } with
  | mk observed after =>
    dsimp only
    cases observed.outcome with
    | error failure => exact ⟨_, List.mem_cons_self, rfl, rfl⟩
    | ok propertySource => exact ⟨_, List.mem_cons_self, rfl, rfl⟩

theorem segmentsFrom_profiles (profiles : List String) (state : ServingState) :
    ((segmentsFrom repository query profiles state).map Segment.profile).IsPrefix profiles := by
  induction profiles generalizing state with
  | nil => exact List.prefix_rfl
  | cons profile rest ih =>
    unfold segmentsFrom
    cases hobserved : observe (repository.serveProfile query profile) state with
    | mk observed after =>
      cases houtcome : observed.outcome with
      | error failure => simp [houtcome]
      | ok propertySource => simpa [houtcome] using ih after

namespace ServedAll

variable {profiles : List String} {state after : ServingState} {all : List Segment}
  {built : List Client} {outcome : Except Failure (List PropertySource)}

theorem service_eq (hall : ServedAll repository query profiles state all built outcome after) :
    ∃ script count, after.service = { state.service with script, built := count } := by
  induction hall with
  | nil => exact ⟨_, _, rfl⟩
  | stop hserved =>
    obtain ⟨script, count, shared, held, rfl⟩ := hserved.after_eq
    exact ⟨script, count, rfl⟩
  | next hserved hrest ih =>
    obtain ⟨script, count, shared, held, rfl⟩ := hserved.after_eq
    exact ih

theorem bindings_eq (hall : ServedAll repository query profiles state all built outcome after) :
    after.bindings = state.bindings := by
  induction hall with
  | nil => rfl
  | stop hserved =>
    obtain ⟨script, count, shared, held, rfl⟩ := hserved.after_eq
    rfl
  | next hserved hrest ih =>
    obtain ⟨script, count, shared, held, rfl⟩ := hserved.after_eq
    exact ih

theorem provider_eq (hall : ServedAll repository query profiles state all built outcome after)
    (hprovider : ∀ tokens, state.provider ≠ .sequence tokens) : after.provider = state.provider := by
  induction hall with
  | nil => rfl
  | stop hserved =>
    obtain ⟨script, count, shared, held, rfl⟩ := hserved.after_eq
    rw [ServingState.tokenTaken_eq_self hprovider]
  | next hserved hrest ih =>
    obtain ⟨script, count, shared, held, rfl⟩ := hserved.after_eq
    rw [ServingState.tokenTaken_eq_self hprovider] at ih
    exact ih hprovider

theorem script_eq_nil (hall : ServedAll repository query profiles state all built outcome after)
    (hscript : state.service.script = []) : after.service.script = [] := by
  induction hall with
  | nil => exact hscript
  | stop hserved => exact hserved.script_eq_nil hscript
  | next hserved hrest ih => exact ih (hserved.script_eq_nil hscript)

theorem segment (hall : ServedAll repository query profiles state all built outcome after) :
    ∀ segment ∈ all, ∃ added middle,
      Served repository query segment.profile segment.before segment.outcome segment.events added
        middle ∧
      ∀ key client, state.shared.find? key = some client →
        segment.before.shared.find? key = some client := by
  induction hall with
  | nil => exact fun segment hsegment => nomatch hsegment
  | stop hserved =>
    intro segment hsegment
    obtain rfl := List.mem_singleton.mp hsegment
    exact ⟨_, _, hserved, fun key client hshared => hshared⟩
  | next hserved hrest ih =>
    intro segment hsegment
    rcases List.mem_cons.mp hsegment with rfl | hlater
    · exact ⟨_, _, hserved, fun key client hshared => hshared⟩
    · obtain ⟨added, middle, hsegment, hkept⟩ := ih segment hlater
      exact ⟨added, middle, hsegment, fun key client hshared =>
        hkept key client (hserved.shared_mono hshared)⟩

/-- A session is opened for the source of some segment, and only if no client was shared for it when the request began. -/
theorem opened (hall : ServedAll repository query profiles state all built outcome after) :
    ∀ session ∈ Event.sessions (all.flatMap Segment.events), ∃ segment ∈ all, ∃ source,
      repository.sourceFor segment.before.token = .ok source ∧
      session = source.session repository.properties.region ∧
      (source.kind ≠ .token → state.shared.find? (Clients.sharedKey source) = none) := by
  intro session hsession
  obtain ⟨event, hevent, hopened⟩ := List.mem_filterMap.mp hsession
  obtain ⟨segment, hsegment, hevent⟩ := List.mem_flatMap.mp hevent
  obtain ⟨added, middle, hserved, hkept⟩ := hall.segment segment hsegment
  obtain ⟨source, hsource, hsame, hunshared⟩ :=
    hserved.opened session (List.mem_filterMap.mpr ⟨event, hevent, hopened⟩)
  refine ⟨segment, hsegment, source, hsource, hsame, fun hkind => ?_⟩
  cases hshared : state.shared.find? (Clients.sharedKey source) with
  | none => rfl
  | some client =>
    have hstill := hkept _ _ hshared
    rw [hunshared hkind] at hstill
    cases hstill

theorem closings_eq_nil
    (hall : ServedAll repository query profiles state all built outcome after) :
    Event.closings (all.flatMap Segment.events) = [] := by
  rw [Event.closings, List.filterMap_eq_nil_iff]
  intro event hevent
  obtain ⟨segment, hsegment, hevent⟩ := List.mem_flatMap.mp hevent
  obtain ⟨added, middle, hserved, _⟩ := hall.segment segment hsegment
  exact List.filterMap_eq_nil_iff.mp hserved.closings_eq_nil event hevent

theorem called_of_built
    (hall : ServedAll repository query profiles state all built outcome after) :
    ∀ client ∈ built, ∃ request,
      (client, request) ∈ Event.calls (all.flatMap Segment.events) := by
  induction hall with
  | nil => exact fun client hclient => nomatch hclient
  | stop hserved =>
    rw [List.flatMap_singleton]
    exact hserved.called_of_built
  | next hserved hrest ih =>
    intro client hclient
    rw [List.flatMap_cons, Event.calls_append]
    rcases List.mem_append.mp hclient with hfirst | hlater
    · obtain ⟨request, hcall⟩ := hserved.called_of_built client hfirst
      exact ⟨request, List.mem_append_left _ hcall⟩
    · obtain ⟨request, hcall⟩ := ih client hlater
      exact ⟨request, List.mem_append_right _ hcall⟩

end ServedAll

/-! ### One request -/

def answer (query : Query) (propertySources : List PropertySource) : Environment :=
  { name := query.application, profiles := splitProfiles query.profiles, label := query.label
    propertySources }

def environmentRecord (query : Query) : Log.Record :=
  .of .debug "environment_resolved" (boundFields query)
    [("profiles", .ofNat (splitProfiles query.profiles).length)]

/-- What is logged at the end of a request: a request that fails says nothing more. -/
def endingRecords (query : Query) : Except Failure Environment → List Log.Record
  | .ok _ => [environmentRecord query]
  | .error _ => []

/-- All that a request can come to. -/
inductive Requested (repository : Repository) (query : Query) (before : ServingState) :
    Except Failure Environment → List Event → List Client → ServingState → Prop
  | intro {outcome : Except Failure Environment}
      {served : Except Failure (List PropertySource)} {middle : ServingState}
      {built closed : List Client} (records : List Log.Record) (held : OrderedMap Source Client)
      (hall : ServedAll repository query (splitProfiles query.profiles) { before with held := ∅ }
        (repository.segments query before) built served middle)
      (hheld : ∀ entry ∈ held.entries, entry ∈ middle.held.entries)
      (hinitial : closed.IsPrefix (Clients.tokenClients middle.held.entries))
      (hcloses : middle.service.failingCloses = [] →
        closed = Clients.tokenClients middle.held.entries ∧ outcome = served.map (answer query))
      (hrecords : records = endingRecords query outcome) :
      Requested repository query before outcome
        ((repository.segments query before).flatMap Segment.events ++
          (closed.map .closed ++ records.map .logged))
        built { middle with held }

namespace Requested

variable {before after : ServingState} {outcome : Except Failure Environment}
  {events : List Event} {built : List Client}

theorem service_eq (hrequested : Requested repository query before outcome events built after) :
    ∃ script count, after.service = { before.service with script, built := count } := by
  cases hrequested with
  | intro records held hall hheld hinitial hcloses => exact hall.service_eq

theorem bindings_eq (hrequested : Requested repository query before outcome events built after) :
    after.bindings = before.bindings := by
  cases hrequested with
  | intro records held hall hheld hinitial hcloses => exact hall.bindings_eq

theorem provider_eq (hrequested : Requested repository query before outcome events built after)
    (hprovider : ∀ tokens, before.provider ≠ .sequence tokens) :
    after.provider = before.provider := by
  cases hrequested with
  | intro records held hall hheld hinitial hcloses => exact hall.provider_eq hprovider

theorem script_eq_nil (hrequested : Requested repository query before outcome events built after)
    (hscript : before.service.script = []) : after.service.script = [] := by
  cases hrequested with
  | intro records held hall hheld hinitial hcloses => exact hall.script_eq_nil hscript

end Requested

/-- What comes of a request whose profiles have been served: a failure to hand back the clients takes the place of all else. -/
def concluded (query : Query) (middle : ServingState)
    (served : Except Failure (List PropertySource)) : Except Failure Environment :=
  match Clients.closingOutcome middle.service (Clients.tokenClients middle.held.entries) with
  | .error failure => .error failure
  | .ok () => served.map (answer query)

/-- A request serves its profiles, hands back the clients held, and closes with a record if all went well. -/
theorem exists_runs_findOne (repository : Repository) (query : Query) (before : ServingState) :
    ∃ built served middle,
      ServedAll repository query (splitProfiles query.profiles) { before with held := ∅ }
        (repository.segments query before) built served middle ∧
      Runs (repository.findOne query) before (concluded query middle served)
        ((repository.segments query before).flatMap Segment.events ++
          ((Clients.closedInTurn middle.service
              (Clients.tokenClients middle.held.entries)).map .closed ++
            (endingRecords query (concluded query middle served)).map .logged))
        { middle with held := Clients.heldAfter middle } := by
  obtain ⟨built, served, middle, hall, hserved⟩ := exists_servedAll repository query
    (splitProfiles query.profiles) { before with held := ∅ }
  refine ⟨built, served, middle, hall, ?_⟩
  have hstart : Runs (modify fun state : ServingState => { state with held := ∅ }) before (.ok ())
      [] { before with held := ∅ } := Runs.modify fun trace => rfl
  have hclosed := Clients.runs_releaseHeld middle
  unfold findOne concluded
  cases houtcome : Clients.closingOutcome middle.service
      (Clients.tokenClients middle.held.entries) with
  | error failure =>
    rw [houtcome] at hclosed
    dsimp only [endingRecords]
    rw [List.map_nil, List.append_nil]
    exact Runs.quiet_bind hstart (Runs.bind_error (Runs.ensuring_error hserved hclosed))
  | ok done =>
    rw [houtcome] at hclosed
    have hensured := Runs.ensuring hserved hclosed
    cases served with
    | error failure =>
      dsimp only [Except.map, endingRecords]
      rw [List.map_nil, List.append_nil]
      exact Runs.quiet_bind hstart (Runs.bind_error hensured)
    | ok propertySources =>
      dsimp only [Except.map, endingRecords]
      rw [← List.append_assoc]
      refine Runs.quiet_bind hstart (Runs.bind hensured ?_)
      exact Runs.bind_quiet (Runs.log _ _ _ _ _) (Runs.pure _ _)

theorem exists_requested (repository : Repository) (query : Query) (before : ServingState) :
    ∃ outcome events built after, Requested repository query before outcome events built after ∧
      Runs (repository.findOne query) before outcome events after := by
  obtain ⟨built, served, middle, hall, hruns⟩ := exists_runs_findOne repository query before
  refine ⟨_, _, built, _, .intro _ _ hall (fun entry => Clients.mem_of_mem_heldAfter)
    (Clients.isPrefix_closedInTurn _ _) (fun hcloses => ?_) rfl, hruns⟩
  have hclosable := fun client (_ : client ∈ Clients.tokenClients middle.held.entries) =>
    Service.failsToClose_of_nil hcloses client
  refine ⟨Clients.closedInTurn_eq_self hclosable, ?_⟩
  unfold concluded
  rw [Clients.closingOutcome_eq_ok hclosable]

/-! ### Runs -/

def history (repository : Repository) (steps : List Step) (start : ServingState) : List Event :=
  (repository.run steps start).1.flatMap Observed.events

inductive Performed (repository : Repository) : Step → ServingState →
    Except Failure (Option Environment) → List Event → ServingState → Prop
  | request {query : Query} {state after : ServingState} {outcome : Except Failure Environment}
      {events : List Event} {built : List Client}
      (hrequested : Requested repository query state outcome events built after) :
      Performed repository (.findOne query) state (outcome.map some) events after
  /-- Between requests nothing but the store, the prepared replies and the bindings changes. -/
  | between {step : Step} {state : ServingState} (store : OrderedMap String String)
      (script : List PreparedReply) (bindings : Bindings) :
      Performed repository step state (.ok none) []
        { state with service := { state.service with store, script }, bindings }

theorem run_cons (repository : Repository) (step : Step) (rest : List Step)
    (state : ServingState) :
    (repository.run (step :: rest) state).2 =
      (repository.run rest (observe (step.perform repository) state).2).2 := rfl

theorem run_cons_observed (repository : Repository) (step : Step) (rest : List Step)
    (state : ServingState) :
    (repository.run (step :: rest) state).1 =
      (observe (step.perform repository) state).1 ::
        (repository.run rest (observe (step.perform repository) state).2).1 := rfl

theorem run_append (repository : Repository) (first second : List Step) (state : ServingState) :
    (repository.run (first ++ second) state).2 =
      (repository.run second (repository.run first state).2).2 := by
  induction first generalizing state with
  | nil => rfl
  | cons step rest ih => rw [List.cons_append, run_cons, run_cons, ih]

theorem runs_changeService {change : Service → Service} (state : ServingState) :
    Runs (changeService change) state (.ok none) []
      { state with service := change state.service } :=
  Runs.quiet_bind (Runs.modify fun _ => rfl) (Runs.pure _ _)

theorem runs_changeBindings {change : Bindings → Bindings} (state : ServingState) :
    Runs (changeBindings change) state (.ok none) []
      { state with bindings := change state.bindings } :=
  Runs.quiet_bind (Runs.modify fun _ => rfl) (Runs.pure _ _)

theorem exists_performed (repository : Repository) (step : Step) (state : ServingState) :
    ∃ outcome events after, Performed repository step state outcome events after ∧
      Runs (step.perform repository) state outcome events after := by
  unfold Step.perform
  cases step with
  | findOne query =>
    obtain ⟨outcome, events, built, after, hrequested, hruns⟩ :=
      exists_requested repository query state
    exact ⟨_, _, _, .request hrequested, Runs.map some hruns⟩
  | put name value =>
    exact ⟨_, _, _, .between (state.service.store.insert name value) state.service.script
      state.bindings, runs_changeService state⟩
  | delete name =>
    exact ⟨_, _, _, .between (state.service.store.erase name) state.service.script
      state.bindings, runs_changeService state⟩
  | prepare replies =>
    exact ⟨_, _, _, .between state.service.store (state.service.script ++ replies)
      state.bindings, runs_changeService state⟩
  | bind headers =>
    exact ⟨_, _, _, .between state.service.store state.service.script _,
      runs_changeBindings state⟩
  | unbind =>
    exact ⟨_, _, _, .between state.service.store state.service.script _,
      runs_changeBindings state⟩

/-- What holds at the start, does not look at the events of the step before, and is kept by what happens between requests and by each request, holds after every run. -/
theorem run_induction (Holds : List Event → ServingState → Prop)
    (htrace : ∀ past state trace, Holds past state → Holds past { state with trace })
    (hbetween : ∀ past (state : ServingState) store script bindings, Holds past state →
      Holds past { state with service := { state.service with store, script }, bindings })
    (hrequest : ∀ past query state outcome events built after,
      Requested repository query state outcome events built after → Holds past state →
        Holds (past ++ events) after)
    {past : List Event} {start : ServingState} (hstart : Holds past start) (steps : List Step) :
    Holds (past ++ repository.history steps start) (repository.run steps start).2 := by
  induction steps generalizing past start with
  | nil => simpa only [history, run, observeAll, List.map_nil, List.flatMap_nil, List.append_nil]
      using hstart
  | cons step rest ih =>
    obtain ⟨outcome, events, after, hperformed, hruns⟩ := exists_performed repository step start
    have hstep : Holds (past ++ events) after := by
      cases hperformed with
      | request hrequested => exact hrequest _ _ _ _ _ _ _ hrequested hstart
      | between store script bindings =>
        rw [List.append_nil]
        exact hbetween _ _ _ _ _ hstart
    have hrest := ih (htrace _ _ events hstep)
    simp only [history, run, List.map_cons, observeAll, hruns.observe, List.flatMap_cons,
      ← List.append_assoc]
    exact hrest

theorem run_invariant (Holds : ServingState → Prop)
    (htrace : ∀ state trace, Holds state → Holds { state with trace })
    (hbetween : ∀ (state : ServingState) store script bindings, Holds state →
      Holds { state with service := { state.service with store, script }, bindings })
    (hrequest : ∀ query state outcome events built after,
      Requested repository query state outcome events built after → Holds state → Holds after)
    {start : ServingState} (hstart : Holds start) (steps : List Step) :
    Holds (repository.run steps start).2 :=
  @run_induction repository (fun _ => Holds) (fun _ => htrace) (fun _ => hbetween)
    (fun _ => hrequest) [] start hstart steps

/-- Of the service nothing changes but the store, the prepared replies, and how many clients it has built. -/
theorem run_service_eq (repository : Repository) (steps : List Step) (state : ServingState) :
    ∃ store script built,
      (repository.run steps state).2.service = { state.service with store, script, built } := by
  refine run_invariant
    (fun other => ∃ store script built, other.service = { state.service with store, script, built })
    (fun _ _ hother => hother) (fun other store script bindings hother => ?_)
    (fun query other outcome events built after hrequested hother => ?_) ⟨_, _, _, rfl⟩ steps
  · obtain ⟨_, _, built, hservice⟩ := hother
    exact ⟨store, script, built, by rw [hservice]⟩
  · obtain ⟨store, _, _, hbefore⟩ := hother
    obtain ⟨script, count, hservice⟩ := hrequested.service_eq
    exact ⟨store, script, count, by rw [hservice, hbefore]⟩

theorem run_provider_eq (repository : Repository) (steps : List Step) {state : ServingState}
    (hprovider : ∀ tokens, state.provider ≠ .sequence tokens) :
    (repository.run steps state).2.provider = state.provider := by
  refine run_invariant (fun other => other.provider = state.provider)
    (fun _ _ hother => hother) (fun _ _ _ _ hother => hother)
    (fun query other outcome events built after hrequested hother => ?_) rfl steps
  rw [hrequested.provider_eq (hother ▸ hprovider), hother]

theorem run_failingCloses (repository : Repository) (steps : List Step) {state : ServingState}
    (hcloses : state.service.failingCloses = []) :
    (repository.run steps state).2.service.failingCloses = [] := by
  obtain ⟨store, script, built, hservice⟩ := repository.run_service_eq steps state
  rw [hservice]
  exact hcloses

end Repository
end ParameterConfig
