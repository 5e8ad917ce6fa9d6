import ParameterConfig.Proofs.Acquisition
import ParameterConfig.Proofs.Pages
import ParameterConfig.Repository

/-!
# The segments of a request

A request is served segment by segment, one for each profile named. A segment takes one token from the provider, settles on a credential source, comes by a client, and reads all pages below its path through that client. `Served` lists all that a segment can come to; what is said of requests elsewhere is derived from it. A request then adds to the events of its segments the closing of clients and one record.
-/

namespace ParameterConfig

namespace ServingState

def token (state : ServingState) : Option String :=
  (state.provider.next state.bindings).1

def tokenTaken (state : ServingState) : ServingState :=
  { state with provider := (state.provider.next state.bindings).2 }

theorem tokenTaken_eq_self {state : ServingState}
    (hprovider : ∀ tokens, state.provider ≠ .sequence tokens) : state.tokenTaken = state := by
  have hsame : (state.provider.next state.bindings).2 = state.provider := by
    cases hcase : state.provider with
    | fixed token => rfl
    | header name => rfl
    | sequence tokens => exact absurd hcase (hprovider tokens)
  simp only [tokenTaken, hsame]

end ServingState

open Serving

/-! ### Reading through a client -/

namespace Fetch

def reported (path : String) : Except Failure (List Parameter) → Except Failure (List Parameter)
  | .ok parameters => .ok parameters
  | .error (.refused code) => .error (Failure.fetchFailed path code)
  | .error (.transport fault) => .error (Failure.fetchFailed path (.string fault.name))
  | .error failure => .error failure

def warning (path field : String) (value : Json) : Log.Record :=
  .of .warning "parameter_fetch_failed" [] [("path", .string path), (field, value)]

def records (path : String) (reading : Reading) : List Log.Record :=
  match reading.outcome with
  | .ok parameters =>
    [.of .debug "parameters_fetched" []
      [("path", .string path), ("count", .ofNat parameters.length),
       ("pages", .ofNat reading.requests.length)]]
  | .error (.refused code) => [warning path "error_code" code]
  | .error (.transport fault) => [warning path "error" (.string fault.name)]
  | .error _ => []

theorem records_congr {path : String} {reading other : Reading}
    (hrequests : reading.requests = other.requests) (houtcome : reading.outcome = other.outcome) :
    records path reading = records path other := by
  unfold records
  rw [hrequests, houtcome]

theorem runs_read (client : Client) (path : String) (state : ServingState) :
    Runs (read client path) state (.ok (state.service.readPages path none))
      ((state.service.readPages path none).requests.map (.called client))
      { state with service := (state.service.readPages path none).service } := by
  unfold read
  refine Runs.get_bind fun trace => ?_
  have hservice : Runs
      (modify fun other : ServingState =>
        { other with service := (state.service.readPages path none).service })
      state (.ok ()) [] { state with service := (state.service.readPages path none).service } :=
    Runs.modify fun trace => rfl
  exact Runs.bind hservice (Runs.bind_quiet (Runs.emit _ _) (Runs.pure _ _))

theorem runs_conclude (path : String) (reading : Reading) (state : ServingState) :
    Runs (conclude path reading) state (reported path reading.outcome)
      ((records path reading).map .logged) state := by
  unfold conclude records reported
  cases reading.outcome with
  | ok parameters => exact Runs.bind_quiet (Runs.log _ _ _ _ _) (Runs.pure _ _)
  | error failure =>
    cases failure with
    | refused code => exact Runs.bind_quiet (Runs.log _ _ _ _ _) (Runs.throw _ _)
    | transport fault => exact Runs.bind_quiet (Runs.log _ _ _ _ _) (Runs.throw _ _)
    | library error => exact Runs.throw _ _
    | ordinary fault message => exact Runs.throw _ _
    | interrupted => exact Runs.throw _ _
    | invalid issues => exact Runs.throw _ _

end Fetch

namespace Repository

variable {repository : Repository} {query : Query}

/-! ### The credential source of a segment -/

/-- The credentials in a token, if there is a token that is not blank. -/
def sentCredentials : Option String → Except Failure (Option SessionCredentials)
  | none => .ok none
  | some token =>
    if (Text.trim token.toList).isEmpty then .ok none
    else (SessionCredentials.decode token).map some

def credentialsRecord (credentials : SessionCredentials) : Log.Record :=
  .of .debug "client_credentials_resolved" []
    [("access_key_id", .string (masked credentials.accessKeyId))]

def tokenRecords (token : Option String) : List Log.Record :=
  match sentCredentials token with
  | .ok (some credentials) => [credentialsRecord credentials]
  | _ => []

/-- The credential source that a token leads to. -/
def sourceFor (repository : Repository) (token : Option String) : Except Failure Source :=
  (sentCredentials token).map fun sent =>
    match sent with
    | some credentials => .token credentials
    | none => repository.localSource

theorem runs_clientCredentials (state : ServingState) :
    Runs clientCredentials state (sentCredentials state.token)
      ((tokenRecords state.token).map .logged) state.tokenTaken := by
  have hset : ∀ trace, exec (set { ({ state with trace } : ServingState) with
      provider := (state.provider.next state.bindings).2 }) { state with trace } =
        (.ok PUnit.unit, { state.tokenTaken with trace }) := fun trace => rfl
  intro trace
  unfold clientCredentials
  rw [exec_bind_ok (exec_get _)]
  dsimp only
  rw [exec_bind_ok (hset trace)]
  show exec (match state.token with | none => _ | some token => _) _ = _
  cases state.token with
  | none => exact Runs.pure none state.tokenTaken trace
  | some token =>
    unfold tokenRecords sentCredentials
    dsimp only
    by_cases hblank : (Text.trim token.toList).isEmpty = true
    · rw [if_pos hblank, if_pos hblank]
      exact Runs.pure none state.tokenTaken trace
    · rw [if_neg hblank, if_neg hblank]
      cases SessionCredentials.decode token with
      | error failure => exact Runs.bind_error (Runs.ofExcept _ state.tokenTaken) trace
      | ok credentials =>
        refine Runs.bind (Runs.ofExcept _ state.tokenTaken) ?_ trace
        exact Runs.bind_quiet (Runs.log _ _ _ _ _) (Runs.pure _ _)

theorem runs_resolve (repository : Repository) (state : ServingState) :
    Runs repository.resolve state (repository.sourceFor state.token)
      ((tokenRecords state.token).map .logged) state.tokenTaken := by
  unfold resolve sourceFor
  have hruns := runs_clientCredentials state
  cases hsent : sentCredentials state.token with
  | error failure =>
    rw [hsent] at hruns
    exact Runs.bind_error hruns
  | ok sent =>
    rw [hsent] at hruns
    cases sent with
    | none => exact Runs.bind_quiet hruns (Runs.pure _ _)
    | some credentials => exact Runs.bind_quiet hruns (Runs.pure _ _)

/-! ### One segment -/

/-- The property source that a reading below a path amounts to. -/
def sourceRead (path : String) (outcome : Except Failure (List Parameter)) :
    Except Failure PropertySource :=
  (Fetch.reported path outcome).bind (PropertySource.ofParameters path)

def sourceRecord (query : Query) (path : String) (source : Source)
    (propertySource : PropertySource) : Log.Record :=
  .of .debug "property_source_built" (boundFields query)
    [("path", .string path), ("credentials", .string source.kind.name),
     ("properties", .ofNat propertySource.source.size)]

/-- What is logged once a reading is over. -/
def readingRecords (query : Query) (path : String) (source : Source) (reading : Reading) :
    List Log.Record :=
  Fetch.records path reading ++
    match sourceRead path reading.outcome with
    | .ok propertySource => [sourceRecord query path source propertySource]
    | .error _ => []

/-- All that serving a profile can come to: the outcome, the events, the clients built, and the state left. -/
inductive Served (repository : Repository) (query : Query) (profile : String)
    (state : ServingState) :
    Except Failure PropertySource → List Event → List Client → ServingState → Prop
  /-- The token cannot be decoded. -/
  | unresolved {failure : Failure} (hsource : repository.sourceFor state.token = .error failure) :
      Served repository query profile state (.error failure) [] [] state.tokenTaken
  /-- There is no client to be had for the source. -/
  | unconnected {source : Source} {failure : Failure} {events : List Event} {built : List Client}
      {after : ServingState} (hsource : repository.sourceFor state.token = .ok source)
      (hacquired : Clients.Acquired repository.properties.region source state.tokenTaken
        (.error failure) events built after) :
      Served repository query profile state (.error failure)
        ((tokenRecords state.token).map .logged ++ events) built after
  /-- The pages are read, which may fail in its turn. -/
  | read {source : Source} {client : Client} {events : List Event} {built : List Client}
      {after : ServingState} {path : String} {reading : Reading}
      (hsource : repository.sourceFor state.token = .ok source)
      (hacquired : Clients.Acquired repository.properties.region source state.tokenTaken
        (.ok client) events built after)
      (hpath : path = repository.properties.path query.application profile)
      (hreading : reading = after.service.readPages path none) :
      Served repository query profile state (sourceRead path reading.outcome)
        ((tokenRecords state.token).map .logged ++ (events ++
          (reading.requests.map (.called client) ++
            (readingRecords query path source reading).map .logged)))
        built { after with service := reading.service }

theorem tokenRecords_of_error {token : Option String} {failure : Failure}
    (hsource : repository.sourceFor token = .error failure) : tokenRecords token = [] := by
  unfold sourceFor at hsource
  unfold tokenRecords
  cases hsent : sentCredentials token with
  | error failure => rfl
  | ok sent => simp [hsent, Except.map] at hsource

/-- What comes after the client of a segment is known. -/
theorem runs_reading {query : Query} {path : String} {source : Source} {client : Client}
    {events : List Event} {state after : ServingState} {reading : Reading}
    (hclient : Runs (Clients.heldFor repository.properties.region source) state (.ok client) events
      after) (hreading : reading = after.service.readPages path none) :
    Runs (do
        let parameters ← Fetch.held repository.properties.region path source
        let propertySource ← Serving.ofExcept (PropertySource.ofParameters path parameters)
        Serving.log .debug "property_source_built" (boundFields query)
          [("path", .string path), ("credentials", .string source.kind.name),
           ("properties", .ofNat propertySource.source.size)]
        return propertySource)
      state (sourceRead path reading.outcome)
      (events ++ (reading.requests.map (.called client) ++
        (readingRecords query path source reading).map .logged))
      { after with service := reading.service } := by
  subst hreading
  have hfetched : Runs (Fetch.held repository.properties.region path source) state
      (Fetch.reported path (after.service.readPages path none).outcome)
      (events ++ ((after.service.readPages path none).requests.map (.called client) ++
        (Fetch.records path (after.service.readPages path none)).map .logged))
      { after with service := (after.service.readPages path none).service } :=
    Runs.bind hclient (Runs.bind (Fetch.runs_read _ _ _) (Fetch.runs_conclude _ _ _))
  unfold readingRecords sourceRead
  cases hreported : Fetch.reported path (after.service.readPages path none).outcome with
  | error failure =>
    rw [hreported] at hfetched
    simp only [Except.bind, List.append_nil]
    exact Runs.bind_error hfetched
  | ok parameters =>
    rw [hreported] at hfetched
    simp only [Except.bind]
    cases hbuilt : PropertySource.ofParameters path parameters with
    | error failure =>
      simp only [List.append_nil]
      refine Runs.bind_quiet hfetched ?_
      rw [hbuilt]
      exact Runs.bind_error (Runs.ofExcept _ _)
    | ok propertySource =>
      simp only [List.map_append, ← List.append_assoc]
      rw [← List.append_assoc] at hfetched
      refine Runs.bind hfetched ?_
      rw [hbuilt]
      refine Runs.bind (Runs.ofExcept _ _) ?_
      exact Runs.bind_quiet (Runs.log _ _ _ _ _) (Runs.pure _ _)

theorem exists_served (repository : Repository) (query : Query) (profile : String)
    (state : ServingState) :
    ∃ outcome events built after,
      Served repository query profile state outcome events built after ∧
      Runs (repository.serveProfile query profile) state outcome events after := by
  have hresolve := runs_resolve repository state
  unfold serveProfile
  cases hsource : repository.sourceFor state.token with
  | error failure =>
    rw [hsource, tokenRecords_of_error hsource] at hresolve
    exact ⟨_, _, _, _, .unresolved hsource, Runs.bind_error hresolve⟩
  | ok source =>
    rw [hsource] at hresolve
    obtain ⟨outcome, events, built, after, hacquired, hclient⟩ :=
      Clients.exists_acquired repository.properties.region source state.tokenTaken
    cases outcome with
    | error failure =>
      refine ⟨_, _, _, _, .unconnected hsource hacquired, Runs.bind hresolve ?_⟩
      exact Runs.bind_error (Runs.bind_error hclient)
    | ok client =>
      exact ⟨_, _, _, _, .read hsource hacquired rfl rfl,
        Runs.bind hresolve (runs_reading hclient rfl)⟩

/-! ### What every segment keeps to -/

namespace Served

variable {profile : String} {state after : ServingState} {outcome : Except Failure PropertySource}
  {events : List Event} {built : List Client}

/-- Nothing changes but what clients there are, what replies are still prepared, and what tokens the provider has left. -/
theorem after_eq
    (hserved : Served repository query profile state outcome events built after) :
    ∃ script count shared held, after =
      { state.tokenTaken with
        service := { state.service with script, built := count }, shared, held } := by
  cases hserved with
  | unresolved hsource =>
    exact ⟨state.service.script, state.service.built, state.shared, state.held, rfl⟩
  | unconnected hsource hacquired =>
    obtain ⟨count, shared, held, rfl⟩ := hacquired.after_eq
    exact ⟨state.service.script, count, shared, held, rfl⟩
  | @read source client _ _ middle path reading hsource hacquired hpath hreading =>
    obtain ⟨count, shared, held, rfl⟩ := hacquired.after_eq
    obtain ⟨script, hservice⟩ := Service.readPages_service
      { state.service with built := count } path none
    refine ⟨script, count, shared, held, ?_⟩
    rw [hreading]
    dsimp only [ServingState.tokenTaken]
    rw [hservice]

theorem script_eq_nil
    (hserved : Served repository query profile state outcome events built after)
    (hscript : state.service.script = []) : after.service.script = [] := by
  cases hserved with
  | unresolved hsource => exact hscript
  | unconnected hsource hacquired =>
    obtain ⟨count, shared, held, rfl⟩ := hacquired.after_eq
    exact hscript
  | @read source client _ _ middle path reading hsource hacquired hpath hreading =>
    obtain ⟨count, shared, held, rfl⟩ := hacquired.after_eq
    rw [hreading]
    have hnone : ({ state.service with built := count } : Service).script = [] := hscript
    exact (congrArg Service.script (Service.readPages_all path hnone).2).trans hnone

theorem shared_mono
    (hserved : Served repository query profile state outcome events built after)
    {key : SharedKey} {client : Client} (hshared : state.shared.find? key = some client) :
    after.shared.find? key = some client := by
  cases hserved with
  | unresolved hsource => exact hshared
  | unconnected hsource hacquired => exact hacquired.shared_mono hshared
  | read hsource hacquired hpath hreading => exact hacquired.shared_mono hshared

/-- A session is opened for the source that the token leads to, and only if no client is shared for it. -/
theorem opened (hserved : Served repository query profile state outcome events built after) :
    ∀ session ∈ Event.sessions events, ∃ source,
      repository.sourceFor state.token = .ok source ∧
      session = source.session repository.properties.region ∧
      (source.kind ≠ .token → state.shared.find? (Clients.sharedKey source) = none) := by
  intro session hsession
  cases hserved with
  | unresolved hsource => exact nomatch hsession
  | unconnected hsource hacquired =>
    simp only [Event.sessions_append, Event.sessions_logged, List.nil_append] at hsession
    exact ⟨_, hsource, hacquired.session_eq session hsession,
      hacquired.unshared (List.ne_nil_of_mem hsession)⟩
  | read hsource hacquired hpath hreading =>
    simp only [Event.sessions_append, Event.sessions_logged, Event.sessions_called,
      List.nil_append, List.append_nil] at hsession
    exact ⟨_, hsource, hacquired.session_eq session hsession,
      hacquired.unshared (List.ne_nil_of_mem hsession)⟩

theorem called_of_built
    (hserved : Served repository query profile state outcome events built after) :
    ∀ client ∈ built, ∃ request, (client, request) ∈ Event.calls events := by
  intro client hclient
  cases hserved with
  | unresolved hsource => cases hclient
  | unconnected hsource hacquired => exact nomatch hacquired.built_eq client hclient
  | @read source other _ _ middle path reading hsource hacquired hpath hreading =>
    obtain rfl := Except.ok.inj (hacquired.built_eq client hclient)
    obtain ⟨request, hrequest⟩ :=
      List.exists_mem_of_ne_nil _ (middle.service.requests_readPages_ne_nil path none)
    refine ⟨request, ?_⟩
    simp only [Event.calls_append, Event.calls_logged, Event.calls_called, List.nil_append,
      List.append_nil, List.mem_append]
    exact .inr (List.mem_map.mpr ⟨request, by rwa [hreading], rfl⟩)

theorem closings_eq_nil
    (hserved : Served repository query profile state outcome events built after) :
    Event.closings events = [] := by
  cases hserved with
  | unresolved hsource => rfl
  | unconnected hsource hacquired => simp [hacquired.closings_eq_nil]
  | read hsource hacquired hpath hreading => simp [hacquired.closings_eq_nil]

end Served

end Repository
end ParameterConfig
