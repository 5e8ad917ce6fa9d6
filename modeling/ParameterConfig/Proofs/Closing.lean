import ParameterConfig.Proofs.Credentials
import ParameterConfig.Proofs.Isolation
import ParameterConfig.Proofs.Lifecycle
import ParameterConfig.Proofs.Reporting

/-!
# Clients that cannot be closed

Handing back clients ends with the first one whose closing fails. Those before it and itself have been closed, those after it stay open. A request forgets the list of clients it held all the same, so nobody closes the others later; a fetcher keeps its list, so closing again begins with those that have been closed already. `clients_closed_in_turn` says so of every request after every run, and of a fetcher in every state.
-/

namespace ParameterConfig

open Serving

/-! ### Closing in turn -/

namespace Service

theorem failsToClose_congr {service other : Service}
    (hcloses : other.failingCloses = service.failingCloses) :
    other.failsToClose = service.failsToClose := by
  funext client
  simp only [failsToClose, hcloses]

end Service

namespace Clients

variable {service : Service}

/-- A client is closed once, unless one before it cannot be closed. -/
theorem count_closedInTurn {front back : List Client} {client : Client}
    (honce : (front ++ client :: back).Nodup) :
    (closedInTurn service (front ++ client :: back)).count client =
      if front.any service.failsToClose then 0 else 1 := by
  induction front with
  | nil =>
    have hback : client ∉ back := (List.nodup_cons.mp honce).1
    have hrest : client ∉ if service.failsToClose client then [] else closedInTurn service back := by
      split
      · exact List.not_mem_nil
      · exact fun hmem => hback ((isPrefix_closedInTurn service back).mem hmem)
    rw [List.nil_append, closedInTurn, List.count_cons_self, List.count_eq_zero_of_not_mem hrest]
    rfl
  | cons other front ih =>
    rw [List.cons_append, List.nodup_cons] at honce
    have hother : other ≠ client := by
      rintro rfl
      exact honce.1 (by simp)
    rw [List.cons_append, closedInTurn, List.count_cons_of_ne hother, List.any_cons]
    cases service.failsToClose other with
    | true => rfl
    | false => exact ih honce.2

theorem closedInTurn_congr {other : Service} (hcloses : other.failingCloses = service.failingCloses)
    (clients : List Client) : closedInTurn other clients = closedInTurn service clients := by
  induction clients with
  | nil => rfl
  | cons client rest ih =>
    rw [closedInTurn, closedInTurn, ih, Service.failsToClose_congr hcloses]

theorem closingOutcome_eq_error {clients : List Client}
    (hfails : clients.any service.failsToClose = true) :
    closingOutcome service clients = .error (.ordinary .runtime "") :=
  if_pos hfails

end Clients

/-! ### Requests -/

namespace Repository

/-- How a request hands back the clients it has built, seen from the service before it. -/
structure HandedBack (service : Service) (observed : Observed Environment)
    (built : List Client) : Prop where
  /-- The clients built are numbered on from those built before, and are the new ones among those called. -/
  numbers : built.map Client.number = List.range' (service.built + 1) built.length
  called : ∀ client ∈ built, ∃ request, (client, request) ∈ Event.calls observed.events
  fresh : ∀ call ∈ Event.calls observed.events, service.built < call.1.number → call.1 ∈ built
  /-- Those for tokens are closed in the order in which they were built, up to the first that cannot be closed, and nobody else is. -/
  closings : Event.closings observed.events =
    Clients.closedInTurn service (built.filter Client.forToken)
  once : ∀ front client back, built.filter Client.forToken = front ++ client :: back →
    (Event.closings observed.events).count client =
      if front.any service.failsToClose then 0 else 1
  /-- That one of them cannot be closed takes the place of all else that the request comes to. -/
  failed : (built.filter Client.forToken).any service.failsToClose = true →
    observed.outcome = .error (.ordinary .runtime "")

theorem exists_handedBack (repository : Repository) (query : Query) {before : ServingState}
    {first : Nat} {past : List Event} {roster : List Client}
    (haccount : Accounted repository.properties.region first past roster before) :
    ∃ built served middle,
      ServedAll repository query (splitProfiles query.profiles) { before with held := ∅ }
        (repository.segments query before) built served middle ∧
      HandedBack before.service (observe (repository.findOne query) before).1 built := by
  obtain ⟨built, served, middle, hall, hruns⟩ := exists_runs_findOne repository query before
  refine ⟨built, served, middle, hall, ?_⟩
  have hmiddle := haccount.request_start.servedAll hall
  have hnumbers := haccount.numbers_built hmiddle
  obtain ⟨failed, _, hunderway⟩ := (Underway.start before).servedAll hall haccount.request_start
  rw [List.nil_append, List.nil_append] at hunderway
  obtain ⟨script, count, hservice⟩ := hall.service_eq
  have hcloses : middle.service.failingCloses = before.service.failingCloses := by rw [hservice]
  rw [hunderway.tokens, Clients.closedInTurn_congr hcloses] at hruns
  have hclosings : Event.closings (observe (repository.findOne query) before).1.events =
      Clients.closedInTurn before.service (built.filter Client.forToken) := by
    rw [hruns.observe, Event.closings_ending, hall.closings_eq_nil, List.nil_append]
  refine { numbers := hnumbers, called := ?_, fresh := ?_, closings := hclosings, once := ?_,
           failed := ?_ }
  · rw [hruns.observe, Event.calls_ending]
    exact hall.called_of_built
  · intro call hcall hnumber
    rw [hruns.observe, Event.calls_ending] at hcall
    exact haccount.built_of_called hmiddle hcall hnumber
  · intro front client back hsplit
    have hbuilt : (built.map Client.number).Nodup := hnumbers ▸ List.nodup_range'
    have honce : (built.filter Client.forToken).Nodup := hbuilt.of_map.filter _
    rw [hclosings, hsplit]
    exact Clients.count_closedInTurn (hsplit ▸ honce)
  · intro hfails
    rw [hruns.observe]
    show concluded query middle served = _
    rw [concluded, hunderway.tokens, Clients.closingOutcome_eq_error]
    rw [Service.failsToClose_congr hcloses]
    exact hfails

end Repository

/-! ### Clients left open -/

namespace Repository

variable {repository : Repository} {query : Query} {profile : String}
  {state after : ServingState} {outcome : Except Failure PropertySource} {events : List Event}
  {built : List Client}

/-- When two profiles are served with different credentials and the client for the first cannot be closed, the client for the second is left open. -/
theorem exists_left_open {firstToken secondToken : String} {first second : SessionCredentials}
    (hfirst : SessionCredentials.read firstToken = .ok first)
    (hsecond : SessionCredentials.read secondToken = .ok second) (hdistinct : second ≠ first)
    {request : Observed Environment × ServingState}
    (hrequest : request = observe
      (findOne { properties := {} } { application := "app", profiles := some "a,b" })
      { service := { failingCloses := [1] }
        provider := .sequence [some firstToken, some secondToken] }) :
    ∃ call ∈ Event.calls request.1.events, call.1.forToken = true ∧ 0 < call.1.number ∧
      (Event.closings request.1.events).count call.1 = 0 := by
  let repository : Repository := { properties := {} }
  let before : ServingState :=
    { service := { failingCloses := [1] }
      provider := .sequence [some firstToken, some secondToken] }
  change request =
    observe (repository.findOne { application := "app", profiles := some "a,b" }) before at hrequest
  obtain ⟨built, served, middle, hall, hhanded⟩ := repository.exists_handedBack
    { application := "app", profiles := some "a,b" }
    (Accounted.start before.service before.provider [])
  rw [← hrequest] at hhanded
  have hprofiles : splitProfiles (some "a,b") = ["a", "b"] := by decide
  rw [hprofiles] at hall
  obtain ⟨_, _, _, _, _, hserved, rfl, hnext⟩ := hall.exists_first
  have hsource : repository.sourceFor before.token = .ok (.token first) := sourceFor_of_read hfirst
  have hread : repository.profileOutcome { application := "app", profiles := some "a,b" } "a"
      before = .ok { name := "aws:ssm:parameter:/app/a/", source := .ofList [] } := by
    have hpath : repository.properties.path "app" "a" = "/app/a/" := by decide
    have hempty : before.service.entriesBelow "/app/a/" = [] :=
      (before.service.entriesBelow_perm "/app/a/").eq_nil
    have hscript : before.service.script = [] := rfl
    have hpages : (before.service.readPages "/app/a/" none).outcome = .ok [] := by
      rw [(Service.readPages_all _ hscript).1, hempty]
      rfl
    rw [profileOutcome, hsource, hpath]
    show sourceRead "/app/a/" (before.service.readPages "/app/a/" none).outcome = _
    rw [hpages]
    rfl
  obtain ⟨_, _, hrest⟩ :=
    hnext _ ((hserved.outcome_eq (.start before.service before.provider [])).trans hread)
  obtain ⟨rfl, hcount, hheld⟩ := hserved.of_new_token hsource rfl rfl
  obtain ⟨script, count, shared, held, rfl⟩ := hserved.after_eq
  obtain rfl : count = 1 := hcount
  obtain rfl : held = _ := hheld
  obtain ⟨_, _, _, _, _, hlater, rfl, _⟩ := hrest.exists_first
  have hnew : ∀ client : Client,
      ((∅ : OrderedMap Source Client).insert (.token first) client).find? (.token second) =
        none := by
    intro client
    rw [OrderedMap.find?_insert_of_ne _ _ (by simpa [Source.token] using hdistinct)]
    rfl
  obtain ⟨rfl, _⟩ := hlater.of_new_token (sourceFor_of_read hsecond) (hnew _) rfl
  obtain ⟨page, hcalled⟩ := hhanded.called _
    (List.mem_append_right _ (List.mem_append_left _ List.mem_cons_self))
  exact ⟨_, hcalled, rfl, Nat.succ_pos _, hhanded.once [_] _ _ rfl⟩

end Repository

/-! ### Fetchers -/

namespace Fetch

/-- How a fetcher hands back the clients it holds. -/
structure HandedBack (region : Option String) (state : ServingState)
    (observed : Observed (Option (List Parameter))) (after : ServingState) : Prop where
  /-- Those for tokens are closed in the order in which they are held, up to the first that cannot be closed. -/
  closings : Event.closings observed.events =
    Clients.closedInTurn state.service (Clients.tokenClients state.held.entries)
  outcome : observed.outcome =
    (Clients.closingOutcome state.service (Clients.tokenClients state.held.entries)).map fun _ => none
  /-- When one of them cannot be closed they are all held still, and handing back again closes the same ones again. Otherwise there are none left. -/
  held : after.held =
    if (Clients.tokenClients state.held.entries).any state.service.failsToClose then state.held
    else ∅
  again : (observe (Step.close.perform region) after).1 =
    if (Clients.tokenClients state.held.entries).any state.service.failsToClose then observed
    else { outcome := .ok none, events := [] }

theorem runs_close (region : Option String) (state : ServingState) :
    Runs (Step.close.perform region) state
      ((Clients.closingOutcome state.service (Clients.tokenClients state.held.entries)).map
        fun _ => none)
      ((Clients.closedInTurn state.service
        (Clients.tokenClients state.held.entries)).map .closed)
      { state with held := Clients.heldAfter state } := by
  have hreleased := Clients.runs_releaseHeld state
  unfold Step.perform
  cases houtcome : Clients.closingOutcome state.service
      (Clients.tokenClients state.held.entries) with
  | error failure =>
    rw [houtcome] at hreleased
    exact Runs.bind_error hreleased
  | ok done =>
    rw [houtcome] at hreleased
    exact Runs.bind_quiet hreleased (Runs.pure _ _)

theorem handedBack_close (region : Option String) (state : ServingState) :
    HandedBack region state (observe (Step.close.perform region) state).1
      (observe (Step.close.perform region) state).2 := by
  have hruns := runs_close region state
  refine { closings := ?_, outcome := ?_, held := ?_, again := ?_ }
  · rw [hruns.observe, Event.closings_closed]
  · rw [hruns.observe]
  · rw [hruns.observe]
    rfl
  · have hagain := runs_close region (observe (Step.close.perform region) state).2
    rw [hagain.observe, hruns.observe]
    simp only [Clients.heldAfter]
    split
    · rfl
    · rfl

end Fetch

/-- Every request after every run hands back the clients it has built in turn, and so does every fetcher that is closed. -/
theorem clients_closed_in_turn (repository : Repository) (service : Service)
    (provider : TokenProvider) (bindings : Bindings) (steps : List Repository.Step) (query : Query)
    (region : Option String) (state : ServingState) :
    let before := (repository.run steps { service, provider, bindings }).2
    let closed := observe (Fetch.Step.close.perform region) state
    (∃ built, Repository.HandedBack before.service (observe (repository.findOne query) before).1
        built) ∧
      Fetch.HandedBack region state closed.1 closed.2 := by
  intro before closed
  obtain ⟨roster, haccount⟩ := Accounted.run repository service provider bindings steps
  obtain ⟨built, _, _, _, hhanded⟩ := repository.exists_handedBack query haccount
  exact ⟨⟨built, hhanded⟩, Fetch.handedBack_close region state⟩

/-- The second of two tokens has its client left open when the client for the first cannot be closed, and a fetcher that cannot close a client closes it again the next time. -/
theorem not_all_closed_once :
    let first : SessionCredentials := ⟨"AKIAONE", "s1", "t1"⟩
    let second : SessionCredentials := ⟨"AKIATWO", "s2", "t2"⟩
    let service : Service := { failingCloses := [1] }
    let repository : Repository := { properties := {} }
    let request := observe (repository.findOne { application := "app", profiles := some "a,b" })
      { service, provider := .sequence [some first.encode, some second.encode] }
    let client : Client := { number := 1, session := (Source.token first).session none }
    let closed := observe (Fetch.Step.close.perform none)
      { service, held := .ofList [(.token first, client)] }
    (∃ call ∈ Event.calls request.1.events, call.1.forToken = true ∧
        service.built < call.1.number ∧ (Event.closings request.1.events).count call.1 = 0) ∧
      client ∈ Event.closings closed.1.events ∧
      client ∈ Event.closings (observe (Fetch.Step.close.perform none) closed.2).1.events := by
  intro first second service repository request client closed
  refine ⟨?_, ?_⟩
  · exact Repository.exists_left_open (SessionCredentials.read_encode first)
      (SessionCredentials.read_encode second) (by decide) rfl
  · exact ⟨List.mem_cons_self, List.mem_cons_self⟩

end ParameterConfig
