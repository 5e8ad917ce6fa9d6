import ParameterConfig.Clients
import ParameterConfig.Proofs.OrderedMap
import ParameterConfig.Proofs.Serving

/-!
# Coming by clients and handing them back

All that asking for a client, and handing clients back, can do to the state in which requests are served. A client comes from a list of those held or shared, or a session is opened and a client built over it, which may fail. Handing back closes clients for tokens only, in order, up to the first whose closing fails.
-/

namespace ParameterConfig

namespace Service

theorem exists_connect_iff {service : Service} {session : Session} :
    (∃ built, service.connect session = .ok built) ↔
      service.checkProfile session = .ok () ∧
        (service.requireRegion = true → hasRegion session = true) := by
  unfold connect
  cases hprofile : service.checkProfile session with
  | error failure => simp [bind, Except.bind]
  | ok known =>
    by_cases hregion : (service.requireRegion && !hasRegion session) = true
    · rw [if_pos hregion]
      simpa [bind, Except.bind, throw, throwThe, MonadExceptOf.throw] using hregion
    · rw [if_neg hregion]
      simpa [bind, Except.bind, pure, Except.pure] using hregion

theorem connect_ok {service after : Service} {session : Session} {client : Client}
    (hconnect : service.connect session = .ok (client, after)) :
    client = { number := service.built + 1, session } ∧
      after = { service with built := service.built + 1 } := by
  unfold connect at hconnect
  cases hprofile : service.checkProfile session with
  | error failure =>
    rw [hprofile] at hconnect
    cases hconnect
  | ok known =>
    rw [hprofile] at hconnect
    by_cases hregion : (service.requireRegion && !hasRegion session) = true
    · rw [if_pos hregion] at hconnect
      cases hconnect
    · rw [if_neg hregion] at hconnect
      cases hconnect
      exact ⟨rfl, rfl⟩

def failsToClose (service : Service) (client : Client) : Bool :=
  service.failingCloses.contains client.number

theorem closing_eq (service : Service) (client : Client) :
    service.closing client =
      if service.failsToClose client then .error (.ordinary .runtime "") else .ok () := rfl

theorem failsToClose_of_nil {service : Service} (hcloses : service.failingCloses = [])
    (client : Client) : service.failsToClose client = false := by
  simp [failsToClose, hcloses]

end Service

namespace Clients

open Serving

variable {region : Option String} {source : Source} {state : ServingState}

def sharedWith (source : Source) (client : Client) (shared : OrderedMap SharedKey Client) :
    OrderedMap SharedKey Client :=
  if source.kind = .token then shared else shared.insert (sharedKey source) client

/-- What asking for the client of a source can come to: the outcome, the events, the clients built, and the state left. -/
inductive Provided (region : Option String) (source : Source) (state : ServingState) :
    Except Failure Client → List Event → List Client → ServingState → Prop
  | shared {client : Client} (hkind : source.kind ≠ .token)
      (hshared : state.shared.find? (sharedKey source) = some client) :
      Provided region source state (.ok client) [] [] state
  | built {client : Client} {service : Service}
      (hshared : source.kind ≠ .token → state.shared.find? (sharedKey source) = none)
      (hconnect : state.service.connect (source.session region) = .ok (client, service)) :
      Provided region source state (.ok client) [.opened (source.session region)] [client]
        { state with service, shared := sharedWith source client state.shared }
  | unbuilt {failure : Failure}
      (hshared : source.kind ≠ .token → state.shared.find? (sharedKey source) = none)
      (hconnect : state.service.connect (source.session region) = .error failure) :
      Provided region source state (.error failure) [.opened (source.session region)] [] state

/-- What asking for the client of a source can come to when clients are held. -/
inductive Acquired (region : Option String) (source : Source) (state : ServingState) :
    Except Failure Client → List Event → List Client → ServingState → Prop
  | held {client : Client} (hheld : state.held.find? source = some client) :
      Acquired region source state (.ok client) [] [] state
  | provided {client : Client} {events : List Event} {built : List Client} {after : ServingState}
      (hheld : state.held.find? source = none)
      (hprovided : Provided region source state (.ok client) events built after) :
      Acquired region source state (.ok client) events built
        { after with held := after.held.insert source client }
  | refused {failure : Failure} {events : List Event} {built : List Client} {after : ServingState}
      (hheld : state.held.find? source = none)
      (hprovided : Provided region source state (.error failure) events built after) :
      Acquired region source state (.error failure) events built after

variable {outcome : Except Failure Client} {events : List Event} {built : List Client}
  {after : ServingState}

theorem Provided.events_cases
    (hprovided : Provided region source state outcome events built after) :
    events = [] ∨ events = [.opened (source.session region)] := by
  cases hprovided with
  | shared hkind hshared => exact .inl rfl
  | built hshared hconnect => exact .inr rfl
  | unbuilt hshared hconnect => exact .inr rfl

/-- At most one session is opened for a client, that of its source, and nothing else happens. -/
theorem Acquired.events_cases
    (hacquired : Acquired region source state outcome events built after) :
    events = [] ∨ events = [.opened (source.session region)] := by
  cases hacquired with
  | held hheld => exact .inl rfl
  | provided hheld hprovided => exact hprovided.events_cases
  | refused hheld hprovided => exact hprovided.events_cases

theorem Acquired.calls_eq_nil
    (hacquired : Acquired region source state outcome events built after) :
    Event.calls events = [] := by
  rcases hacquired.events_cases with rfl | rfl <;> rfl

theorem Acquired.requests_eq_nil
    (hacquired : Acquired region source state outcome events built after) :
    Event.requests events = [] := by
  rw [Event.requests, hacquired.calls_eq_nil, List.map_nil]

theorem Acquired.records_eq_nil
    (hacquired : Acquired region source state outcome events built after) :
    Event.records events = [] := by
  rcases hacquired.events_cases with rfl | rfl <;> rfl

theorem Acquired.closings_eq_nil
    (hacquired : Acquired region source state outcome events built after) :
    Event.closings events = [] := by
  rcases hacquired.events_cases with rfl | rfl <;> rfl

theorem Acquired.session_eq
    (hacquired : Acquired region source state outcome events built after) :
    ∀ session ∈ Event.sessions events, session = source.session region := by
  intro session hsession
  rcases hacquired.events_cases with rfl | rfl
  · cases hsession
  · exact List.mem_singleton.mp hsession

theorem Provided.built_eq
    (hprovided : Provided region source state outcome events built after) :
    ∀ client ∈ built, outcome = .ok client := by
  cases hprovided with
  | shared hkind hshared => exact fun client hclient => nomatch hclient
  | built hshared hconnect =>
    intro client hclient
    rw [List.mem_singleton.mp hclient]
  | unbuilt hshared hconnect => exact fun client hclient => nomatch hclient

theorem Acquired.built_eq
    (hacquired : Acquired region source state outcome events built after) :
    ∀ client ∈ built, outcome = .ok client := by
  cases hacquired with
  | held hheld => exact fun client hclient => nomatch hclient
  | provided hheld hprovided => exact hprovided.built_eq
  | refused hheld hprovided => exact hprovided.built_eq

theorem Provided.after_eq
    (hprovided : Provided region source state outcome events built after) :
    ∃ count shared, after =
      { state with service := { state.service with built := count }, shared } := by
  cases hprovided with
  | shared hkind hshared => exact ⟨state.service.built, state.shared, rfl⟩
  | built hshared hconnect =>
    rw [(Service.connect_ok hconnect).2]
    exact ⟨_, _, rfl⟩
  | unbuilt hshared hconnect => exact ⟨state.service.built, state.shared, rfl⟩

/-- Nothing changes but the clients: how many have been built, which are shared, which are held. -/
theorem Acquired.after_eq
    (hacquired : Acquired region source state outcome events built after) :
    ∃ count shared held, after =
      { state with service := { state.service with built := count }, shared, held } := by
  cases hacquired with
  | held hheld => exact ⟨state.service.built, state.shared, state.held, rfl⟩
  | provided hheld hprovided =>
    obtain ⟨count, shared, rfl⟩ := hprovided.after_eq
    exact ⟨count, shared, _, rfl⟩
  | refused hheld hprovided =>
    obtain ⟨count, shared, rfl⟩ := hprovided.after_eq
    exact ⟨count, shared, state.held, rfl⟩

theorem Provided.shared_mono
    (hprovided : Provided region source state outcome events built after) {key : SharedKey}
    {client : Client} (hshared : state.shared.find? key = some client) :
    after.shared.find? key = some client := by
  cases hprovided with
  | shared hkind hfound => exact hshared
  | built hnew hconnect =>
    dsimp only
    unfold sharedWith
    by_cases hkind : source.kind = .token
    · rw [if_pos hkind]
      exact hshared
    · rw [if_neg hkind]
      exact OrderedMap.find?_insert_of_new (hnew hkind) hshared
  | unbuilt hnew hconnect => exact hshared

theorem Acquired.shared_mono
    (hacquired : Acquired region source state outcome events built after) {key : SharedKey}
    {client : Client} (hshared : state.shared.find? key = some client) :
    after.shared.find? key = some client := by
  cases hacquired with
  | held hheld => exact hshared
  | provided hheld hprovided => exact hprovided.shared_mono hshared
  | refused hheld hprovided => exact hprovided.shared_mono hshared

theorem Provided.unshared
    (hprovided : Provided region source state outcome events built after)
    (hopened : Event.sessions events ≠ []) (hkind : source.kind ≠ .token) :
    state.shared.find? (sharedKey source) = none := by
  cases hprovided with
  | shared hkind hshared => exact absurd rfl hopened
  | built hshared hconnect => exact hshared hkind
  | unbuilt hshared hconnect => exact hshared hkind

/-- A session is opened only for a source that no client is shared for. -/
theorem Acquired.unshared
    (hacquired : Acquired region source state outcome events built after)
    (hopened : Event.sessions events ≠ []) (hkind : source.kind ≠ .token) :
    state.shared.find? (sharedKey source) = none := by
  cases hacquired with
  | held hheld => exact absurd rfl hopened
  | provided hheld hprovided => exact hprovided.unshared hopened hkind
  | refused hheld hprovided => exact hprovided.unshared hopened hkind

theorem Provided.held_eq (hprovided : Provided region source state outcome events built after) :
    after.held = state.held := by
  obtain ⟨count, shared, rfl⟩ := hprovided.after_eq
  rfl

theorem Acquired.keys_of_ok {client : Client}
    (hacquired : Acquired region source state (.ok client) events built after) :
    after.held.keys =
      if source ∈ state.held.keys then state.held.keys else state.held.keys ++ [source] := by
  cases hacquired with
  | held hheld =>
    have hkey : source ∈ state.held.keys := by
      by_contra hnone
      exact nomatch (OrderedMap.find?_eq_none.mpr hnone).symm.trans hheld
    rw [if_pos hkey]
  | provided hheld hprovided =>
    dsimp only
    rw [hprovided.held_eq, OrderedMap.keys_insert]

theorem Acquired.mem_of_ok {client : Client}
    (hacquired : Acquired region source state (.ok client) events built after) :
    (source, client) ∈ after.held.entries := by
  cases hacquired with
  | held hheld => exact OrderedMap.mem_entries_of_find? hheld
  | provided hheld hprovided =>
    dsimp only
    rw [hprovided.held_eq, OrderedMap.mem_entries_insert_of_new hheld]
    exact .inr rfl

theorem Acquired.mem_mono (hacquired : Acquired region source state outcome events built after)
    {entry : Source × Client} (hentry : entry ∈ state.held.entries) :
    entry ∈ after.held.entries := by
  cases hacquired with
  | held hheld => exact hentry
  | refused hheld hprovided => rwa [hprovided.held_eq]
  | provided hheld hprovided =>
    dsimp only
    rw [hprovided.held_eq, OrderedMap.mem_entries_insert_of_new hheld]
    exact .inl hentry

theorem Acquired.held_of_error {failure : Failure}
    (hacquired : Acquired region source state (.error failure) events built after) :
    after.held = state.held := by
  cases hacquired with
  | refused hheld hprovided => exact hprovided.held_eq

theorem runs_build_ok {client : Client} {service : Service}
    (hconnect : state.service.connect (source.session region) = .ok (client, service)) :
    Runs (build region source) state (.ok client) [.opened (source.session region)]
      { state with service } := by
  unfold build
  refine Runs.bind (Runs.emit _ _) (Runs.get_bind fun trace => ?_)
  dsimp only
  rw [hconnect]
  refine Runs.bind (Runs.ofExcept _ _) ?_
  exact Runs.bind (Runs.modify fun trace => rfl) (Runs.pure _ _)

theorem runs_build_error {failure : Failure}
    (hconnect : state.service.connect (source.session region) = .error failure) :
    Runs (build region source) state (.error failure) [.opened (source.session region)] state := by
  unfold build
  refine Runs.bind (Runs.emit _ _) (Runs.get_bind fun trace => ?_)
  dsimp only
  rw [hconnect]
  exact Runs.bind_error (Runs.ofExcept _ _)

theorem exists_provided (region : Option String) (source : Source) (state : ServingState) :
    ∃ outcome events built after, Provided region source state outcome events built after ∧
      Runs (forSource region source) state outcome events after := by
  unfold forSource
  by_cases hkind : source.kind = .token
  · rw [if_pos hkind]
    cases hconnect : state.service.connect (source.session region) with
    | error failure =>
      exact ⟨_, _, _, _, .unbuilt (fun hother => absurd hkind hother) hconnect,
        runs_build_error hconnect⟩
    | ok built =>
      obtain ⟨client, service⟩ := built
      refine ⟨_, _, _, _, .built (fun hother => absurd hkind hother) hconnect, ?_⟩
      rw [sharedWith, if_pos hkind]
      exact runs_build_ok hconnect
  · rw [if_neg hkind]
    cases hshared : state.shared.find? (sharedKey source) with
    | some client =>
      refine ⟨_, _, _, _, .shared hkind hshared, Runs.get_bind fun trace => ?_⟩
      dsimp only
      rw [hshared]
      exact Runs.pure _ _
    | none =>
      cases hconnect : state.service.connect (source.session region) with
      | error failure =>
        refine ⟨_, _, _, _, .unbuilt (fun _ => hshared) hconnect, Runs.get_bind fun trace => ?_⟩
        dsimp only
        rw [hshared]
        exact Runs.bind_error (runs_build_error hconnect)
      | ok built =>
        obtain ⟨client, service⟩ := built
        refine ⟨_, _, _, _, .built (fun _ => hshared) hconnect, Runs.get_bind fun trace => ?_⟩
        dsimp only
        rw [hshared, sharedWith, if_neg hkind]
        refine Runs.bind (runs_build_ok hconnect) ?_
        exact Runs.bind (Runs.modify fun trace => rfl) (Runs.pure _ _)

theorem exists_acquired (region : Option String) (source : Source) (state : ServingState) :
    ∃ outcome events built after, Acquired region source state outcome events built after ∧
      Runs (heldFor region source) state outcome events after := by
  unfold heldFor
  cases hheld : state.held.find? source with
  | some client =>
    refine ⟨_, _, _, _, .held hheld, Runs.get_bind fun trace => ?_⟩
    dsimp only
    rw [hheld]
    exact Runs.pure _ _
  | none =>
    obtain ⟨outcome, events, built, after, hprovided, hruns⟩ := exists_provided region source state
    cases outcome with
    | error failure =>
      refine ⟨_, _, _, _, .refused hheld hprovided, Runs.get_bind fun trace => ?_⟩
      dsimp only
      rw [hheld]
      exact Runs.bind_error hruns
    | ok client =>
      refine ⟨_, _, _, _, .provided hheld hprovided, Runs.get_bind fun trace => ?_⟩
      dsimp only
      rw [hheld]
      refine Runs.bind_quiet hruns ?_
      exact Runs.bind_quiet (Runs.modify fun trace => rfl) (Runs.pure _ _)

/-! ### Handing back -/

def tokenClients (entries : List (Source × Client)) : List Client :=
  (entries.filter fun entry => entry.1.kind = .token).map Prod.snd

theorem tokenClients_cons (source : Source) (client : Client) (rest : List (Source × Client)) :
    tokenClients ((source, client) :: rest) =
      if source.kind = .token then client :: tokenClients rest else tokenClients rest := by
  by_cases hkind : source.kind = .token <;> simp [tokenClients, hkind]

theorem runs_release_token {client : Client} (hkind : source.kind = .token) :
    Runs (release source client) state (state.service.closing client) [.closed client] state := by
  unfold release
  rw [if_pos hkind]
  refine Runs.bind_quiet (Runs.emit _ _) (Runs.get_bind fun trace => ?_)
  exact Runs.ofExcept _ _

theorem runs_release_other {client : Client} (hkind : source.kind ≠ .token) :
    Runs (release source client) state (.ok ()) [] state := by
  unfold release
  rw [if_neg hkind]
  exact Runs.pure _ _

/-- The clients that are closed of those to be closed in this order: all of them up to the first whose closing fails, that one included. -/
def closedInTurn (service : Service) : List Client → List Client
  | [] => []
  | client :: rest =>
    client :: if service.failsToClose client then [] else closedInTurn service rest

def closingOutcome (service : Service) (clients : List Client) : Except Failure Unit :=
  if clients.any service.failsToClose then .error (.ordinary .runtime "") else .ok ()

theorem isPrefix_closedInTurn (service : Service) (clients : List Client) :
    (closedInTurn service clients).IsPrefix clients := by
  induction clients with
  | nil => exact List.prefix_rfl
  | cons client rest ih =>
    unfold closedInTurn
    split
    · exact List.prefix_append [client] rest
    · exact List.cons_prefix_cons.mpr ⟨rfl, ih⟩

theorem closedInTurn_eq_self {service : Service} {clients : List Client}
    (hcloses : ∀ client ∈ clients, service.failsToClose client = false) :
    closedInTurn service clients = clients := by
  induction clients with
  | nil => rfl
  | cons client rest ih =>
    rw [List.forall_mem_cons] at hcloses
    unfold closedInTurn
    rw [if_neg (by simp [hcloses.1]), ih hcloses.2]

theorem closingOutcome_eq_ok {service : Service} {clients : List Client}
    (hcloses : ∀ client ∈ clients, service.failsToClose client = false) :
    closingOutcome service clients = .ok () := by
  refine if_neg ?_
  simpa using hcloses

theorem runs_releaseAll (entries : List (Source × Client)) (state : ServingState) :
    Runs (releaseAll entries) state (closingOutcome state.service (tokenClients entries))
      ((closedInTurn state.service (tokenClients entries)).map .closed) state := by
  induction entries with
  | nil => exact Runs.pure _ _
  | cons entry rest ih =>
    obtain ⟨source, client⟩ := entry
    rw [tokenClients_cons]
    by_cases hkind : source.kind = .token
    · rw [if_pos hkind]
      have hrelease : Runs (release source client) state (state.service.closing client)
        [.closed client] state := runs_release_token hkind
      cases hfails : state.service.failsToClose client with
      | true =>
        rw [Service.closing_eq, if_pos hfails] at hrelease
        simp only [closingOutcome, closedInTurn, List.any_cons, hfails, Bool.true_or, if_true]
        exact Runs.bind_error hrelease
      | false =>
        rw [Service.closing_eq, if_neg (by simp [hfails])] at hrelease
        simp only [closingOutcome, closedInTurn, List.any_cons, hfails, Bool.false_or]
        exact Runs.bind hrelease ih
    · rw [if_neg hkind]
      exact Runs.bind (runs_release_other hkind) ih

/-- The clients that are still held once all have been handed back. When that fails they stay on the list. -/
def heldAfter (state : ServingState) : OrderedMap Source Client :=
  if (tokenClients state.held.entries).any state.service.failsToClose then state.held else ∅

theorem mem_of_mem_heldAfter {entry : Source × Client} (hentry : entry ∈ (heldAfter state).entries) :
    entry ∈ state.held.entries := by
  unfold heldAfter at hentry
  split at hentry
  · exact hentry
  · exact absurd hentry List.not_mem_nil

/-- Handing back all clients held closes those for tokens in turn. -/
theorem runs_releaseHeld (state : ServingState) :
    Runs releaseHeld state (closingOutcome state.service (tokenClients state.held.entries))
      ((closedInTurn state.service (tokenClients state.held.entries)).map .closed)
      { state with held := heldAfter state } := by
  have hreleased := runs_releaseAll state.held.entries state
  unfold releaseHeld closingOutcome heldAfter at *
  refine Runs.get_bind fun trace => ?_
  split
  · rename_i hfails
    rw [if_pos hfails] at hreleased
    exact Runs.bind_error hreleased
  · rename_i hcloses
    rw [if_neg hcloses] at hreleased
    exact Runs.bind_quiet hreleased (Runs.modify fun trace => rfl)

end Clients
end ParameterConfig
