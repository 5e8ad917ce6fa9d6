import ParameterConfig.Proofs.Availability
import ParameterConfig.Proofs.Likeness

/-!
# What a request shows

Whoever sees neither sessions nor clients sees three things of a request: what comes of it, which requests are made to the service, and what is logged. All three can be told from the circumstances of the request, which are the service, the provider of tokens, and the headers of the innermost binding. `showRequest` tells them without any clients. A request shows just that, whatever clients are shared when it begins and however often clients are built or found again in its course: `Requested.shown_eq`.
-/

namespace ParameterConfig

/-- What is seen of an action by whoever sees neither sessions nor clients. -/
structure Shown (α : Type) where
  outcome : Except Failure α
  requests : List Request
  records : List Log.Record

def Serving.Observed.shown {α : Type} (observed : Serving.Observed α) : Shown α :=
  { outcome := observed.outcome, requests := Event.requests observed.events
    records := Event.records observed.events }

/-- What a request depends on besides the query. Clients are not among it, nor is their number. -/
structure Circumstances where
  service : Service
  provider : TokenProvider
  headers : Option Headers

namespace Circumstances

def token (given : Circumstances) : Option String :=
  (given.provider.next [given.headers]).1

def tokenTaken (given : Circumstances) : Circumstances :=
  { given with provider := (given.provider.next [given.headers]).2 }

end Circumstances

namespace Bindings

def innermost (bindings : Bindings) : Option Headers :=
  bindings.head?.join

theorem value?_innermost (bindings : Bindings) (name : String) :
    Bindings.value? [bindings.innermost] name = bindings.value? name := by
  cases bindings with
  | nil => rfl
  | cons headers outer => cases headers <;> rfl

theorem innermost_take (bindings : Bindings) :
    Bindings.innermost (bindings.take 1) = bindings.innermost := by
  cases bindings <;> rfl

end Bindings

theorem TokenProvider.next_innermost (provider : TokenProvider) (bindings : Bindings) :
    provider.next [bindings.innermost] = provider.next bindings := by
  unfold TokenProvider.next
  cases provider with
  | fixed token => rfl
  | header name => exact congrArg (·, TokenProvider.header name) (bindings.value?_innermost name)
  | sequence tokens => cases tokens <;> rfl

namespace ServingState

def circumstances (state : ServingState) : Circumstances :=
  { service := { state.service with built := 0 }, provider := state.provider
    headers := state.bindings.innermost }

theorem token_circumstances (state : ServingState) : state.circumstances.token = state.token := by
  unfold Circumstances.token token circumstances
  rw [TokenProvider.next_innermost]

theorem circumstances_tokenTaken (state : ServingState) :
    state.tokenTaken.circumstances = state.circumstances.tokenTaken := by
  unfold Circumstances.tokenTaken tokenTaken circumstances
  rw [TokenProvider.next_innermost]

end ServingState

namespace Repository

open Serving

variable (repository : Repository) (query : Query)

/-- What a request shows to whoever sees neither sessions nor clients. -/
def shows (state : ServingState) : Shown Environment :=
  (observe (repository.findOne query) state).1.shown

/-! ### Requests without clients -/

/-- What serving a profile shows, and the circumstances of the next one. -/
def showProfile (profile : String) (given : Circumstances) :
    Shown PropertySource × Circumstances :=
  match repository.sourceFor given.token with
  | .error failure => ({ outcome := .error failure, requests := [], records := [] }, given.tokenTaken)
  | .ok source =>
    match given.service.admission (source.session repository.properties.region) with
    | .error failure =>
      ({ outcome := .error failure, requests := [], records := tokenRecords given.token },
        given.tokenTaken)
    | .ok () =>
      let path := repository.properties.path query.application profile
      let reading := given.service.readPages path none
      ({ outcome := sourceRead path reading.outcome, requests := reading.requests
         records := tokenRecords given.token ++ readingRecords query path source reading },
        { given.tokenTaken with service := reading.service })

/-- Profiles are served in their order, up to the first that fails. -/
def showProfiles : List String → Circumstances → Shown (List PropertySource) × Circumstances
  | [], given => ({ outcome := .ok [], requests := [], records := [] }, given)
  | profile :: rest, given =>
    let (shown, after) := showProfile repository query profile given
    match shown.outcome with
    | .error failure =>
      ({ outcome := .error failure, requests := shown.requests, records := shown.records }, after)
    | .ok propertySource =>
      let (later, last) := showProfiles rest after
      ({ outcome := later.outcome.map (propertySource :: ·)
         requests := shown.requests ++ later.requests
         records := shown.records ++ later.records }, last)

def showRequest (given : Circumstances) : Shown Environment × Circumstances :=
  let (served, after) := showProfiles repository query (splitProfiles query.profiles) given
  let outcome := served.outcome.map (answer query)
  ({ outcome, requests := served.requests
     records := served.records ++ endingRecords query outcome }, after)

/-! ### Requests with clients show the same -/

variable {repository query} {state after : ServingState} {events : List Event}
  {built : List Client}

theorem readingRecords_congr {path : String} {source : Source} {reading other : Reading}
    (hrequests : reading.requests = other.requests) (houtcome : reading.outcome = other.outcome) :
    readingRecords query path source reading = readingRecords query path source other := by
  unfold readingRecords
  rw [Fetch.records_congr hrequests houtcome, houtcome]

theorem Served.shown_eq {profile : String} {outcome : Except Failure PropertySource}
    (hserved : Served repository query profile state outcome events built after)
    (havailable : Available repository.properties.region state) :
    showProfile repository query profile state.circumstances =
      ({ outcome, requests := Event.requests events, records := Event.records events },
        after.circumstances) := by
  unfold showProfile
  rw [state.token_circumstances]
  cases hserved with
  | unresolved hsource =>
    rw [hsource, state.circumstances_tokenTaken]
    rfl
  | @unconnected source failure acquiring _ _ hsource hacquired =>
    have hadmission : state.circumstances.service.admission
        (source.session repository.properties.region) = .error failure :=
      (hacquired.outcome_eq havailable.tokenTaken).symm
    have hquiet := hacquired.requests_eq_nil
    have hsilent := hacquired.records_eq_nil
    obtain ⟨count, shared, held, rfl⟩ := hacquired.after_eq
    rw [hsource]
    dsimp only
    rw [hadmission, ← state.circumstances_tokenTaken]
    simp only [Event.requests_append, Event.requests_logged, hquiet, Event.records_append,
      Event.records_logged, hsilent, List.append_nil]
    rfl
  | @read source client acquiring _ middle path reading hsource hacquired hpath hreading =>
    have hadmission : state.circumstances.service.admission
        (source.session repository.properties.region) = .ok () :=
      (hacquired.outcome_eq havailable.tokenTaken).symm
    have hquiet := hacquired.requests_eq_nil
    have hsilent := hacquired.records_eq_nil
    obtain ⟨count, shared, held, rfl⟩ := hacquired.after_eq
    have huncounted := ({ state.service with built := count } : Service).readPages_built 0 path none
    rw [← show reading = ({ state.service with built := count } : Service).readPages path none
      from hreading] at huncounted
    have hcalled : (state.circumstances.service.readPages path none).requests =
        reading.requests := huncounted.1
    have hread : (state.circumstances.service.readPages path none).outcome = reading.outcome :=
      huncounted.2.1
    have hafter : (state.circumstances.service.readPages path none).service =
        { reading.service with built := 0 } := huncounted.2.2
    rw [hsource]
    dsimp only
    rw [hadmission, ← state.circumstances_tokenTaken, ← hpath]
    dsimp only
    rw [hread, hcalled, hafter, readingRecords_congr hcalled hread]
    simp only [Event.requests_append, Event.requests_logged, Event.requests_called, hquiet,
      Event.records_append, Event.records_logged, Event.records_called, hsilent, List.nil_append,
      List.append_nil]
    rfl

theorem ServedAll.shown_eq {profiles : List String} {all : List Segment}
    {outcome : Except Failure (List PropertySource)}
    (hall : ServedAll repository query profiles state all built outcome after)
    (havailable : Available repository.properties.region state) :
    showProfiles repository query profiles state.circumstances =
      ({ outcome, requests := Event.requests (all.flatMap Segment.events)
         records := Event.records (all.flatMap Segment.events) }, after.circumstances) := by
  induction hall with
  | nil => rfl
  | @stop _ _ _ middle failure events _ hserved =>
    unfold showProfiles
    rw [hserved.shown_eq havailable, List.flatMap_singleton]
    rfl
  | @next _ _ _ middle _ propertySource events _ _ later outcome hserved hrest ih =>
    have hmiddle : Available repository.properties.region { middle with trace := events } :=
      (hserved.available havailable).of_same_clients rfl rfl rfl fun _ hentry => hentry
    unfold showProfiles
    rw [hserved.shown_eq havailable, List.flatMap_cons, Event.requests_append,
      Event.records_append]
    dsimp only
    rw [show middle.circumstances = ({ middle with trace := events } : ServingState).circumstances
      from rfl, ih hmiddle]

/-- What a request shows is told by the circumstances when it begins, and it leaves those that the requests without clients leave. -/
theorem Requested.shown_eq {before : ServingState} {outcome : Except Failure Environment}
    (hrequested : Requested repository query before outcome events built after)
    (havailable : Available repository.properties.region before)
    (hcloses : before.service.failingCloses = []) :
    showRequest repository query before.circumstances =
      ({ outcome, requests := Event.requests events, records := Event.records events },
        after.circumstances) := by
  cases hrequested with
  | @intro served middle _ closed records held hall hheld hinitial hclosed hrecords =>
    have hstart : Available repository.properties.region { before with held := ∅ } :=
      havailable.of_same_clients rfl rfl rfl fun _ hentry => nomatch hentry
    have hshown := hall.shown_eq hstart
    obtain ⟨script, count, hservice⟩ := hall.service_eq
    obtain ⟨_, houtcome⟩ := hclosed (by rw [hservice]; exact hcloses)
    unfold showRequest
    rw [show before.circumstances = ({ before with held := ∅ } : ServingState).circumstances
      from rfl, hshown]
    dsimp only
    rw [← houtcome, hrecords]
    simp only [Event.requests_append, Event.requests_closed, Event.requests_logged,
      Event.records_append, Event.records_closed, Event.records_logged, List.nil_append,
      List.append_nil]
    rfl

theorem shows_eq (havailable : Available repository.properties.region state)
    (hcloses : state.service.failingCloses = []) :
    repository.shows query state = (showRequest repository query state.circumstances).1 := by
  obtain ⟨outcome, events, built, after, hrequested, hruns⟩ :=
    exists_requested repository query state
  unfold shows
  rw [hruns.observe, hrequested.shown_eq havailable hcloses]
  rfl

theorem circumstances_findOne (havailable : Available repository.properties.region state)
    (hcloses : state.service.failingCloses = []) :
    (observe (Step.perform repository (.findOne query)) state).2.circumstances =
      (showRequest repository query state.circumstances).2 := by
  obtain ⟨outcome, events, built, after, hrequested, hruns⟩ :=
    exists_requested repository query state
  have hstep : (observe (Step.perform repository (.findOne query)) state).2 =
      { after with trace := events } := congrArg Prod.snd (hruns.map some).observe
  rw [hstep, hrequested.shown_eq havailable hcloses]
  rfl

end Repository
end ParameterConfig
