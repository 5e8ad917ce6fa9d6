import ParameterConfig.Proofs.Closing
import ParameterConfig.Proofs.Fetching

/-!
# The clients that a fetcher holds

A fetch that is to hold on to its client finds the one held for its source, or comes by one and holds it, whatever becomes of its pages. Handing all clients back closes those for tokens. `Owned` says whose clients are whose at any time: those for tokens have been closed or are held, each of them once, and all others that are held are shared. `Ledger` adds for which sources clients are held, each step keeps it, and `clients_held_once` is read off it.
-/

namespace ParameterConfig

open Serving

namespace Clients

/-! ### Whose clients are whose -/

theorem mem_tokenClients_iff {entries : List (Source × Client)} {client : Client} :
    client ∈ tokenClients entries ↔ ∃ source, source.kind = .token ∧ (source, client) ∈ entries := by
  simp [tokenClients, and_comm]

/-- Clients for tokens are either closed or held, each of them once, and none of them is shared; all others that are held are shared. -/
structure Owned (closed : List Client) (state : ServingState) : Prop where
  known : ∀ client ∈ closed ++ tokenClients state.held.entries, client.number ≤ state.service.built
  once : ((closed ++ tokenClients state.held.entries).map Client.number).Nodup
  shared : ∀ client ∈ state.shared.values, client.number ≤ state.service.built ∧
    client.number ∉ (closed ++ tokenClients state.held.entries).map Client.number
  others : ∀ entry ∈ state.held.entries, entry.1.kind ≠ .token → entry.2 ∈ state.shared.values

namespace Owned

variable {region : Option String} {closed : List Client} {state after : ServingState}
  {source : Source} {outcome : Except Failure Client} {events : List Event}
  {client : Client} {built : List Client}

theorem start (service : Service) : Owned [] { service } where
  known := fun _ hnone => nomatch hnone
  once := List.nodup_nil
  shared := fun _ hnone => nomatch hnone
  others := fun _ hnone => nomatch hnone

theorem of_same_clients (howned : Owned closed state)
    (hbuilt : after.service.built = state.service.built) (hshared : after.shared = state.shared)
    (hheld : after.held = state.held) : Owned closed after := by
  constructor <;> rw [hheld]
  · rw [hbuilt]
    exact howned.known
  · exact howned.once
  · rw [hbuilt, hshared]
    exact howned.shared
  · rw [hshared]
    exact howned.others

theorem succ_not_mem (howned : Owned closed state) :
    state.service.built + 1 ∉ (closed ++ tokenClients state.held.entries).map Client.number := by
  intro hmem
  obtain ⟨client, hclient, hnumber⟩ := List.mem_map.mp hmem
  have hle := howned.known client hclient
  omega

/-- Building a client for a source takes nothing from what is owned by now. -/
theorem provided (howned : Owned closed state)
    (hprovided : Provided region source state outcome events built after) : Owned closed after := by
  cases hprovided with
  | shared hkind hshared => exact howned
  | unbuilt hshared hconnect => exact howned
  | built hshared hconnect =>
    obtain ⟨rfl, rfl⟩ := Service.connect_ok hconnect
    refine { known := ?_, once := howned.once, shared := ?_, others := ?_ }
    · exact fun client hclient => Nat.le_succ_of_le (howned.known client hclient)
    · intro client hclient
      dsimp only at hclient
      unfold sharedWith at hclient
      split at hclient
      · exact (howned.shared client hclient).imp_left Nat.le_succ_of_le
      · rename_i hkind
        rcases (OrderedMap.mem_values_insert_of_new (hshared hkind)).mp hclient with hold | rfl
        · exact (howned.shared client hold).imp_left Nat.le_succ_of_le
        · exact ⟨Nat.le_refl _, howned.succ_not_mem⟩
    · intro entry hentry hkind
      have hold := howned.others entry hentry hkind
      dsimp only
      unfold sharedWith
      split
      · exact hold
      · rename_i hother
        exact (OrderedMap.mem_values_insert_of_new (hshared hother)).mpr (.inl hold)

theorem hold_other (howned : Owned closed state) (hnew : state.held.find? source = none)
    (hkind : source.kind ≠ .token) (hclient : client ∈ state.shared.values) :
    Owned closed { state with held := state.held.insert source client } := by
  have htokens : tokenClients (state.held.insert source client).entries =
      tokenClients state.held.entries := by
    rw [OrderedMap.entries_insert_of_new hnew, tokenClients_append, tokenClients_cons, if_neg hkind]
    exact List.append_nil _
  refine { known := ?_, once := ?_, shared := ?_, others := ?_ }
  · rw [htokens]
    exact howned.known
  · rw [htokens]
    exact howned.once
  · rw [htokens]
    exact howned.shared
  · intro entry hentry hother
    rcases (OrderedMap.mem_entries_insert_of_new hnew).mp hentry with hold | rfl
    · exact howned.others entry hold hother
    · exact hclient

theorem hold_token (howned : Owned closed state) (hnew : state.held.find? source = none)
    (hkind : source.kind = .token) (hnumber : client.number ≤ state.service.built)
    (hfresh : client.number ∉ (closed ++ tokenClients state.held.entries).map Client.number)
    (hshared : ∀ other ∈ state.shared.values, other.number ≠ client.number) :
    Owned closed { state with held := state.held.insert source client } := by
  have htokens : closed ++ tokenClients (state.held.insert source client).entries =
      (closed ++ tokenClients state.held.entries) ++ [client] := by
    rw [OrderedMap.entries_insert_of_new hnew, tokenClients_append, tokenClients_cons, if_pos hkind,
      List.append_assoc]
    rfl
  refine { known := ?_, once := ?_, shared := ?_, others := ?_ }
  · rw [htokens, List.forall_mem_append, List.forall_mem_singleton]
    exact ⟨howned.known, hnumber⟩
  · rw [htokens, List.map_append, List.nodup_append_comm]
    exact List.nodup_cons.mpr ⟨hfresh, howned.once⟩
  · intro other hother
    obtain ⟨hknown, hapart⟩ := howned.shared other hother
    rw [htokens, List.map_append, List.mem_append, List.map_singleton, List.mem_singleton]
    exact ⟨hknown, not_or.mpr ⟨hapart, hshared other hother⟩⟩
  · intro entry hentry hother
    rcases (OrderedMap.mem_entries_insert_of_new hnew).mp hentry with hold | rfl
    · exact howned.others entry hold hother
    · exact absurd hkind hother

theorem acquired (howned : Owned closed state)
    (hacquired : Acquired region source state outcome events built after) : Owned closed after := by
  cases hacquired with
  | held hheld => exact howned
  | refused hheld hprovided => exact howned.provided hprovided
  | provided hheld hprovided =>
    have hmiddle := howned.provided hprovided
    cases hprovided with
    | shared hkind hshared =>
      refine hmiddle.hold_other hheld hkind ?_
      exact List.mem_map_of_mem (f := Prod.snd) (OrderedMap.mem_entries_of_find? hshared)
    | built hshared hconnect =>
      obtain ⟨rfl, rfl⟩ := Service.connect_ok hconnect
      by_cases hkind : source.kind = .token
      · refine hmiddle.hold_token hheld hkind (Nat.le_refl _) howned.succ_not_mem ?_
        intro other hother hsame
        dsimp only at hother hsame
        rw [sharedWith, if_pos hkind] at hother
        have hle := (howned.shared other hother).1
        omega
      · refine hmiddle.hold_other hheld hkind ?_
        dsimp only
        rw [sharedWith, if_neg hkind, OrderedMap.mem_values_insert_of_new (hshared hkind)]
        exact .inr rfl

theorem closeAll (howned : Owned closed state) :
    Owned (closed ++ tokenClients state.held.entries) { state with held := ∅ } := by
  have hsame : closed ++ tokenClients state.held.entries ++
      tokenClients (∅ : OrderedMap Source Client).entries =
        closed ++ tokenClients state.held.entries := List.append_nil _
  refine { known := ?_, once := ?_, shared := ?_, others := fun _ hnone => nomatch hnone }
  · rw [hsame]
    exact howned.known
  · rw [hsame]
    exact howned.once
  · rw [hsame]
    exact howned.shared

/-- A client for a token is held and open, or has been closed once and is held no more. -/
theorem held_or_closed (howned : Owned closed state)
    (hclient : client ∈ closed ++ tokenClients state.held.entries) :
    client ∈ state.held.values ∧ (closed.map Client.number).count client.number = 0 ∨
      client.number ∉ state.held.values.map Client.number ∧
        (closed.map Client.number).count client.number = 1 := by
  have honce := howned.once
  rw [List.map_append, List.nodup_append] at honce
  obtain ⟨hclosed, _, hapart⟩ := honce
  rcases List.mem_append.mp hclient with hpast | hheld
  · right
    have hnumber : client.number ∈ closed.map Client.number := List.mem_map_of_mem hpast
    refine ⟨fun hmem => ?_, List.count_eq_one_of_mem hclosed hnumber⟩
    obtain ⟨other, hother, hsame⟩ := List.mem_map.mp hmem
    obtain ⟨⟨source, other⟩, hentry, rfl⟩ := List.mem_map.mp hother
    by_cases hkind : source.kind = .token
    · have htoken : other ∈ tokenClients state.held.entries :=
        mem_tokenClients_iff.mpr ⟨source, hkind, hentry⟩
      exact hapart _ hnumber _ (List.mem_map_of_mem htoken) hsame.symm
    · refine (howned.shared other (howned.others _ hentry hkind)).2 ?_
      rw [hsame]
      exact List.mem_map_of_mem (List.mem_append_left _ hpast)
  · left
    obtain ⟨source, _, hentry⟩ := mem_tokenClients_iff.mp hheld
    refine ⟨List.mem_map.mpr ⟨_, hentry, rfl⟩, List.count_eq_zero.mpr fun hmem => ?_⟩
    exact hapart _ hmem _ (List.mem_map_of_mem hheld) rfl

end Owned

end Clients

namespace Fetch

/-! ### What a step comes to -/

/-- All that coming by a client can come to, whether it is to be held or not. -/
def Taken (region : Option String) (source : Source) (holding : Bool) (state : ServingState)
    (outcome : Except Failure Client) (events : List Event) (built : List Client)
    (after : ServingState) : Prop :=
  if holding then Clients.Acquired region source state outcome events built after
  else Clients.Provided region source state outcome events built after

inductive Performed (region : Option String) : Step → ServingState →
    Except Failure (Option (List Parameter)) → List Event → ServingState → Prop
  | read {path : String} {source : Source} {holding : Bool} {state middle : ServingState}
      {client : Client} {acquiring : List Event} {built : List Client} {requests : List Request}
      (htaken : Taken region source holding state (.ok client) acquiring built middle)
      (hrequests : requests ≠ []) (records : List Log.Record) (script : List PreparedReply)
      (outcome : Except Failure (Option (List Parameter))) :
      Performed region (.fetch path source holding) state outcome
        (acquiring ++ (requests.map (.called client) ++ records.map .logged))
        { middle with service := { middle.service with script } }
  | refused {path : String} {source : Source} {holding : Bool} {state after : ServingState}
      {failure : Failure} {events : List Event} {built : List Client}
      (htaken : Taken region source holding state (.error failure) events built after) :
      Performed region (.fetch path source holding) state (.error failure) events after
  | closed {state : ServingState} :
      Performed region .close state
        ((Clients.closingOutcome state.service (Clients.tokenClients state.held.entries)).map
          fun _ => none)
        ((Clients.closedInTurn state.service
          (Clients.tokenClients state.held.entries)).map .closed)
        { state with held := Clients.heldAfter state }

theorem exists_performed (region : Option String) (step : Step) (state : ServingState) :
    ∃ outcome events after, Performed region step state outcome events after ∧
      Runs (step.perform region) state outcome events after := by
  cases step with
  | close => exact ⟨_, _, _, .closed, runs_close region state⟩
  | fetch path source holding =>
    obtain ⟨script, hservice⟩ := state.service.readPages_service path none
    have hrequests := state.service.requests_readPages_ne_nil path none
    cases holding with
    | true =>
      obtain ⟨outcome, events, built, after, hacquired, hruns⟩ :=
        Clients.exists_acquired region source state
      have htaken : Taken region source true state outcome events built after := hacquired
      cases outcome with
      | error failure => exact ⟨_, _, _, .refused htaken, (Runs.bind_error hruns).map some⟩
      | ok client =>
        obtain ⟨count, shared, held, rfl⟩ := hacquired.after_eq
        have hfetched := (runs_fetched path hruns).map some
        rw [hservice] at hfetched
        exact ⟨_, _, _, .read htaken hrequests _ script _, hfetched⟩
    | false =>
      obtain ⟨outcome, events, built, after, hprovided, hruns⟩ :=
        Clients.exists_provided region source state
      have htaken : Taken region source false state outcome events built after := hprovided
      cases outcome with
      | error failure => exact ⟨_, _, _, .refused htaken, (Runs.bind_error hruns).map some⟩
      | ok client =>
        obtain ⟨count, shared, rfl⟩ := hprovided.after_eq
        have hfetched := (runs_fetched path hruns).map some
        rw [hservice] at hfetched
        exact ⟨_, _, _, .read htaken hrequests _ script _, hfetched⟩

section

variable {region : Option String} {source : Source} {holding : Bool} {state after : ServingState}
  {outcome : Except Failure Client} {events : List Event} {built : List Client}

theorem Taken.owned {closed : List Client}
    (htaken : Taken region source holding state outcome events built after)
    (howned : Clients.Owned closed state) : Clients.Owned closed after := by
  cases holding with
  | true => exact howned.acquired htaken
  | false => exact howned.provided htaken

theorem Taken.available (htaken : Taken region source holding state outcome events built after)
    (havailable : Available region state) : Available region after := by
  cases holding with
  | true => exact Clients.Acquired.available htaken havailable
  | false => exact Clients.Provided.available htaken havailable

theorem Taken.outcome_eq (htaken : Taken region source holding state outcome events built after)
    (havailable : Available region state) :
    outcome.map (fun _ => ()) = state.service.admission (source.session region) := by
  cases holding with
  | true => exact Clients.Acquired.outcome_eq htaken havailable
  | false => exact Clients.Provided.outcome_eq htaken havailable

theorem Taken.events_cases (htaken : Taken region source holding state outcome events built after) :
    events = [] ∨ events = [.opened (source.session region)] := by
  cases holding with
  | true => exact Clients.Acquired.events_cases htaken
  | false => exact Clients.Provided.events_cases htaken

theorem Taken.closings_eq_nil
    (htaken : Taken region source holding state outcome events built after) :
    Event.closings events = [] := by
  rcases htaken.events_cases with rfl | rfl <;> rfl

theorem Taken.calls_eq_nil
    (htaken : Taken region source holding state outcome events built after) :
    Event.calls events = [] := by
  rcases htaken.events_cases with rfl | rfl <;> rfl

theorem Taken.service_eq (htaken : Taken region source holding state outcome events built after) :
    ∃ count, after.service = { state.service with built := count } := by
  cases holding with
  | true =>
    obtain ⟨count, shared, held, rfl⟩ := Clients.Acquired.after_eq htaken
    exact ⟨count, rfl⟩
  | false =>
    obtain ⟨count, shared, rfl⟩ := Clients.Provided.after_eq htaken
    exact ⟨count, rfl⟩

theorem Taken.mem_mono (htaken : Taken region source holding state outcome events built after)
    {entry : Source × Client} (hentry : entry ∈ state.held.entries) :
    entry ∈ after.held.entries := by
  cases holding with
  | true => exact Clients.Acquired.mem_mono htaken hentry
  | false => rwa [show after.held = state.held from Clients.Provided.held_eq htaken]

theorem Taken.held_of_unheld (htaken : Taken region source false state outcome events built after) :
    after.held = state.held :=
  Clients.Provided.held_eq htaken

theorem Taken.held_of_error {failure : Failure}
    (htaken : Taken region source holding state (.error failure) events built after) :
    after.held = state.held := by
  cases holding with
  | true => exact Clients.Acquired.held_of_error htaken
  | false => exact htaken.held_of_unheld

end

/-! ### The ledger -/

def obtainable (service : Service) (region : Option String) (source : Source) : Bool :=
  (service.connect (source.session region)).isOk

/-- The sources that clients have been asked for to be held, since all were handed back the last time. -/
def askedToHold (steps : List Step) : List Source :=
  steps.foldl (fun sources step =>
    match step with
    | .fetch _ source true => sources ++ [source]
    | .fetch _ _ false => sources
    | .close => []) []

theorem askedToHold_concat (steps : List Step) (step : Step) :
    askedToHold (steps ++ [step]) =
      match step with
      | .fetch _ source true => askedToHold steps ++ [source]
      | .fetch _ _ false => askedToHold steps
      | .close => [] := by
  simp only [askedToHold, List.foldl_append, List.foldl_cons, List.foldl_nil]

theorem obtainable_iff {service : Service} {region : Option String} {source : Source} :
    obtainable service region source = true ↔
      service.admission (source.session region) = .ok () := by
  unfold obtainable
  rw [Service.connect_eq]
  cases service.admission (source.session region) with
  | error failure => simp [Except.map, Except.isOk, Except.toBool]
  | ok admitted => simp [Except.map, Except.isOk, Except.toBool]

/-- What has been done, against the clients that are held. -/
structure Ledger (region : Option String) (service : Service) (steps : List Step)
    (history : List (Step × Observed (Option (List Parameter)))) (state : ServingState) : Prop where
  available : Available region state
  settled : ∃ script built, state.service = { service with script, built }
  owned : Clients.Owned (Event.closings (eventsOf history)) state
  keys : state.held.keys = ((askedToHold steps).filter (obtainable service region)).eraseDups
  /-- Whoever is called to be held for a token is accounted for. -/
  called : ∀ path source observed, (.fetch path source true, observed) ∈ history →
    source.kind = .token → obtainable service region source = true →
      ∃ client ∈ Event.closings (eventsOf history) ++ Clients.tokenClients state.held.entries,
        Event.calls observed.events ≠ [] ∧ ∀ call ∈ Event.calls observed.events, call.1 = client

namespace Ledger

variable {region : Option String} {service : Service} {steps : List Step} {step : Step}
  {history : List (Step × Observed (Option (List Parameter)))} {state after : ServingState}
  {source : Source} {path : String} {holding : Bool} {client : Client} {events : List Event}
  {built : List Client}

theorem start (region : Option String) (service : Service) :
    Ledger region service [] [] { service } where
  available := .start service _ _
  settled := ⟨service.script, service.built, rfl⟩
  owned := .start service
  keys := rfl
  called := fun _ _ _ hnone => nomatch hnone

theorem of_same_clients (hledger : Ledger region service steps history state)
    (hservice : ∃ script, after.service = { state.service with script })
    (hshared : after.shared = state.shared) (hheld : after.held = state.held) :
    Ledger region service steps history after := by
  obtain ⟨script, hservice⟩ := hservice
  obtain ⟨_, built, hbefore⟩ := hledger.settled
  have hentries : ∀ entry ∈ after.held.entries, entry ∈ state.held.entries :=
    hheld ▸ fun _ hentry => hentry
  refine { available := ?_, settled := ?_, owned := ?_, keys := ?_, called := ?_ }
  · exact hledger.available.of_same_clients (by rw [hservice]) (by rw [hservice]) hshared hentries
  · exact ⟨script, built, by rw [hservice, hbefore]⟩
  · exact hledger.owned.of_same_clients (by rw [hservice]) hshared hheld
  · rw [hheld]
    exact hledger.keys
  · rw [hheld]
    exact hledger.called

theorem obtainable_iff (hledger : Ledger region service steps history state) :
    obtainable service region source = true ↔
      state.service.admission (source.session region) = .ok () := by
  obtain ⟨script, built, hservice⟩ := hledger.settled
  rw [Fetch.obtainable_iff, hservice]
  exact Iff.of_eq (congrArg (· = Except.ok ()) (Service.admission_congr rfl rfl _))

theorem obtainable_of_ok (hledger : Ledger region service steps history state)
    (htaken : Taken region source holding state (.ok client) events built after) :
    obtainable service region source = true :=
  hledger.obtainable_iff.mpr (htaken.outcome_eq hledger.available).symm

theorem not_obtainable_of_error (hledger : Ledger region service steps history state)
    {failure : Failure}
    (htaken : Taken region source holding state (.error failure) events built after) :
    obtainable service region source = false := by
  rw [← Bool.not_eq_true, hledger.obtainable_iff, ← htaken.outcome_eq hledger.available]
  exact fun hok => nomatch hok

/-- A fetch has a source stay in its place or come to the end, if it is to be held and can be. -/
theorem keys_fetched (hledger : Ledger region service steps history state)
    {outcome : Except Failure Client}
    (htaken : Taken region source holding state outcome events built after) :
    after.held.keys =
      ((askedToHold (steps ++ [.fetch path source holding])).filter
        (obtainable service region)).eraseDups := by
  rw [askedToHold_concat]
  cases holding with
  | false => rw [htaken.held_of_unheld, hledger.keys]
  | true =>
    dsimp only
    rw [List.filter_append]
    cases outcome with
    | error failure =>
      have hrefused := hledger.not_obtainable_of_error htaken
      rw [htaken.held_of_error, hledger.keys, List.filter_singleton, hrefused, cond_false,
        List.append_nil]
    | ok client =>
      have hobtained := hledger.obtainable_of_ok htaken
      rw [Clients.Acquired.keys_of_ok htaken, hledger.keys, List.filter_singleton, hobtained,
        cond_true, OrderedMap.eraseDups_concat]
      simp only [List.mem_eraseDups]

theorem fetched (hledger : Ledger region service steps history state) {taken : Except Failure Client}
    {acquiring : List Event}
    (htaken : Taken region source holding state taken acquiring built after)
    (outcome : Except Failure (Option (List Parameter)))
    (hclosings : Event.closings events = [])
    (hcalls : ∀ client, taken = .ok client →
      Event.calls events ≠ [] ∧ ∀ call ∈ Event.calls events, call.1 = client) :
    Ledger region service (steps ++ [.fetch path source holding])
      (history ++ [(.fetch path source holding, ⟨outcome, events⟩)]) after := by
  have hsame : Event.closings (eventsOf (history ++
      [(Step.fetch path source holding, Observed.mk outcome events)])) =
        Event.closings (eventsOf history) := by
    rw [eventsOf_concat, Event.closings_append, hclosings, List.append_nil]
  obtain ⟨script, first, hbefore⟩ := hledger.settled
  obtain ⟨count, hservice⟩ := htaken.service_eq
  refine { available := htaken.available hledger.available, settled := ?_, owned := ?_,
           keys := hledger.keys_fetched htaken, called := ?_ }
  · exact ⟨script, count, by rw [hservice, hbefore]⟩
  · rw [hsame]
    exact htaken.owned hledger.owned
  · rw [hsame]
    intro other holder observed hentry hkind hobtainable
    rcases List.mem_append.mp hentry with hold | hlast
    · obtain ⟨client, hclient, hcalled⟩ := hledger.called _ _ _ hold hkind hobtainable
      refine ⟨client, ?_, hcalled⟩
      refine (List.mem_append.mp hclient).elim (List.mem_append_left _) fun hheld => ?_
      obtain ⟨owner, howner, hentry⟩ := Clients.mem_tokenClients_iff.mp hheld
      exact List.mem_append_right _
        (Clients.mem_tokenClients_iff.mpr ⟨owner, howner, htaken.mem_mono hentry⟩)
    · cases List.mem_singleton.mp hlast
      cases taken with
      | error failure =>
        exact nomatch hobtainable.symm.trans (hledger.not_obtainable_of_error htaken)
      | ok client =>
        refine ⟨client, ?_, hcalls client rfl⟩
        exact List.mem_append_right _
          (Clients.mem_tokenClients_iff.mpr ⟨_, hkind, Clients.Acquired.mem_of_ok htaken⟩)

theorem closes (hledger : Ledger region service steps history state)
    (hcloses : service.failingCloses = []) (client : Client) :
    state.service.failsToClose client = false := by
  obtain ⟨script, built, hservice⟩ := hledger.settled
  refine Service.failsToClose_of_nil ?_ client
  rw [hservice]
  exact hcloses

theorem closed (hledger : Ledger region service steps history state)
    (outcome : Except Failure (Option (List Parameter))) :
    Ledger region service (steps ++ [.close])
      (history ++ [(.close,
        ⟨outcome, (Clients.tokenClients state.held.entries).map .closed⟩)])
      { state with held := ∅ } := by
  have hclosings : Event.closings (eventsOf (history ++ [(Step.close,
      Observed.mk outcome ((Clients.tokenClients state.held.entries).map .closed))])) =
        Event.closings (eventsOf history) ++ Clients.tokenClients state.held.entries := by
    rw [eventsOf_concat, Event.closings_append, Event.closings_closed]
  refine { available := ?_, settled := hledger.settled, owned := ?_, keys := ?_, called := ?_ }
  · exact hledger.available.of_same_clients rfl rfl rfl fun _ hnone => nomatch hnone
  · rw [hclosings]
    exact hledger.owned.closeAll
  · rw [askedToHold_concat]
    rfl
  · rw [hclosings]
    intro path source observed hentry hkind hobtainable
    rcases List.mem_append.mp hentry with hold | hlast
    · obtain ⟨client, hclient, hcalled⟩ := hledger.called _ _ _ hold hkind hobtainable
      exact ⟨client, List.mem_append_left _ hclient, hcalled⟩
    · cases List.mem_singleton.mp hlast

theorem performed {outcome : Except Failure (Option (List Parameter))}
    (hledger : Ledger region service steps history state) (hcloses : service.failingCloses = [])
    (hperformed : Performed region step state outcome events after) :
    Ledger region service (steps ++ [step]) (history ++ [(step, ⟨outcome, events⟩)]) after := by
  cases hperformed with
  | read htaken hrequests records script =>
    refine Ledger.of_same_clients (hledger.fetched htaken outcome ?_ ?_) ⟨script, rfl⟩ rfl rfl
    · simp [htaken.closings_eq_nil]
    · intro other hother
      obtain rfl := Except.ok.inj hother
      simp [htaken.calls_eq_nil, hrequests]
  | refused htaken =>
    exact hledger.fetched htaken _ htaken.closings_eq_nil fun client hclient => nomatch hclient
  | closed =>
    have hfails := hledger.closes hcloses
    rw [Clients.closedInTurn_eq_self fun client _ => hfails client]
    rw [Clients.heldAfter, if_neg (by simp [hfails])]
    exact hledger.closed _

theorem chronicle (region : Option String) (service : Service) (steps : List Step)
    (hcloses : service.failingCloses = []) :
    Ledger region service steps
      (Serving.chronicle (Step.perform region) steps { service }).1
      (Serving.chronicle (Step.perform region) steps { service }).2 := by
  induction steps using List.reverseRecOn with
  | nil => exact start region service
  | append_singleton steps step ih =>
    obtain ⟨outcome, events, after, hperformed, hruns⟩ := exists_performed region step
      (Serving.chronicle (Step.perform region) steps { service }).2
    rw [chronicle_concat, hruns.observe]
    exact (ih.performed hcloses hperformed).of_same_clients ⟨_, rfl⟩ rfl rfl

end Ledger

/-! ### Holding on -/

/-- What may be said of the clients held once so much has been done, and of the next step. -/
structure Holds (region : Option String) (service : Service) (steps : List Step)
    (history : List (Step × Observed (Option (List Parameter)))) (state : ServingState) : Prop where
  /-- One client is held for each source that had one to be held since all were handed back, in the order in which they came. -/
  keys : state.held.keys = ((askedToHold steps).filter (obtainable service region)).eraseDups
  /-- A client that is held is used again. -/
  again : ∀ path source client, state.held.find? source = some client →
    let fetched := observe ((Step.fetch path source true).perform region) state
    Event.sessions fetched.1.events = [] ∧ Event.calls fetched.1.events ≠ [] ∧
      (∀ call ∈ Event.calls fetched.1.events, call.1 = client) ∧ fetched.2.held = state.held
  unheld : ∀ path source,
    (observe ((Step.fetch path source false).perform region) state).2.held = state.held
  unobtained : ∀ path source, obtainable service region source = false →
    let fetched := observe ((Step.fetch path source true).perform region) state
    Event.calls fetched.1.events = [] ∧ fetched.2.held = state.held
  /-- A client that has been called to be held for a token is held and open, or has been closed once and is held no more. -/
  tokens : ∀ path source observed, (.fetch path source true, observed) ∈ history →
    source.kind = .token → obtainable service region source = true →
      ∃ client, Event.calls observed.events ≠ [] ∧
        (∀ call ∈ Event.calls observed.events, call.1 = client) ∧
        (client ∈ state.held.values ∧
            ((Event.closings (eventsOf history)).map Client.number).count client.number = 0 ∨
          client.number ∉ state.held.values.map Client.number ∧
            ((Event.closings (eventsOf history)).map Client.number).count client.number = 1)
  closing : observe (Step.close.perform region) state =
    ({ outcome := .ok none, events := (Clients.tokenClients state.held.entries).map .closed },
      { state with held := ∅, trace := (Clients.tokenClients state.held.entries).map .closed })

namespace Ledger

variable {region : Option String} {service : Service} {steps : List Step}
  {history : List (Step × Observed (Option (List Parameter)))} {state : ServingState}

theorem holds (hledger : Ledger region service steps history state)
    (hcloses : service.failingCloses = []) : Holds region service steps history state where
  keys := hledger.keys
  again := by
    intro path source client hheld fetched
    obtain ⟨outcome, events, after, hperformed, hruns⟩ :=
      exists_performed region (.fetch path source true) state
    have hfetched : fetched = _ := hruns.observe
    rw [hfetched]
    cases hperformed with
    | refused htaken =>
      cases htaken with
      | refused hnone => exact nomatch hnone.symm.trans hheld
    | read htaken hrequests =>
      cases htaken with
      | provided hnone => exact nomatch hnone.symm.trans hheld
      | held hfound =>
        obtain rfl := Option.some.inj (hfound.symm.trans hheld)
        refine ⟨by simp, by simpa using hrequests, ?_, rfl⟩
        intro call hcall
        simp only [List.nil_append, Event.calls_append, Event.calls_called, Event.calls_logged,
          List.append_nil, List.mem_map] at hcall
        obtain ⟨_, _, rfl⟩ := hcall
        rfl
  unheld := by
    intro path source
    obtain ⟨outcome, events, after, hperformed, hruns⟩ :=
      exists_performed region (.fetch path source false) state
    rw [hruns.observe]
    cases hperformed with
    | read htaken => exact htaken.held_of_unheld
    | refused htaken => exact htaken.held_of_unheld
  unobtained := by
    intro path source hrefused fetched
    obtain ⟨outcome, events, after, hperformed, hruns⟩ :=
      exists_performed region (.fetch path source true) state
    have hfetched : fetched = _ := hruns.observe
    rw [hfetched]
    cases hperformed with
    | read htaken => exact nomatch hrefused.symm.trans (hledger.obtainable_of_ok htaken)
    | refused htaken => exact ⟨htaken.calls_eq_nil, htaken.held_of_error⟩
  tokens := by
    intro path source observed hentry hkind hobtainable
    obtain ⟨client, hclient, hcalled, hcalls⟩ :=
      hledger.called path source observed hentry hkind hobtainable
    exact ⟨client, hcalled, hcalls, hledger.owned.held_or_closed hclient⟩
  closing := by
    have hfails := hledger.closes hcloses
    rw [(runs_close region state).observe,
      Clients.closedInTurn_eq_self fun client _ => hfails client,
      Clients.closingOutcome_eq_ok fun client _ => hfails client, Clients.heldAfter,
      if_neg (by simp [hfails])]
    rfl

end Ledger

/-- However a fetcher is used, it holds one client for each source that asked for it, and hands back those for tokens once. -/
theorem clients_held_once (region : Option String) (service : Service) (steps : List Step)
    (hcloses : service.failingCloses = []) :
    let reached := chronicle (Step.perform region) steps { service }
    Holds region service steps reached.1 reached.2 :=
  (Ledger.chronicle region service steps hcloses).holds hcloses

/-- A client is held on to although the fetch that it was built for failed. -/
theorem clients_held_once_after_failure :
    let source : Source := .token ⟨"AKIA", "s", "t"⟩
    let service : Service := { script := [.failure .interrupted] }
    let steps : List Step := [.fetch "/a/" source true]
    let reached := chronicle (Step.perform none) steps { service }
    service.failingCloses = [] ∧ Holds none service steps reached.1 reached.2 ∧
      reached.2.held.keys = [source] := by
  intro source service steps reached
  have hholds : Holds none service steps reached.1 reached.2 :=
    clients_held_once none service steps rfl
  exact ⟨rfl, hholds, hholds.keys.trans (by decide)⟩

end Fetch
end ParameterConfig
