import ParameterConfig.Proofs.Roster

/-!
# The pool of shared clients

A client for a profile or for the ambient identity is built when it is asked for first, and all that ask for the same kind and profile later are given the same one. A client for a token is built each time and goes to nobody else. `Ledger` ties the clients that are shared to those that have been given out, and each step keeps it. `shared_clients_kept` reads off what may be said of the clients after any steps, and what the next step will do.
-/

namespace ParameterConfig
namespace Clients

open Serving

/-- The client was given out for the source. -/
def Given (history : List (Step × Observed (Option Client))) (source : Source) (client : Client) :
    Prop :=
  ∃ events, (.acquire source, { outcome := .ok (some client), events }) ∈ history

variable {region : Option String} {history : List (Step × Observed (Option Client))}
  {source other : Source} {client given : Client} {state after : ServingState}
  {outcome : Except Failure Client} {events : List Event} {built : List Client}

theorem given_acquired_iff :
    Given (history ++ [(.acquire source, { outcome := outcome.map some, events })]) other given ↔
      Given history other given ∨ other = source ∧ outcome = .ok given := by
  unfold Given
  simp only [List.mem_append, List.mem_singleton, exists_or, Prod.mk.injEq, Step.acquire.injEq,
    Observed.mk.injEq]
  refine or_congr Iff.rfl ⟨?_, ?_⟩
  · rintro ⟨_, rfl, houtcome, rfl⟩
    cases outcome with
    | error failure => cases houtcome
    | ok client =>
      cases houtcome
      exact ⟨rfl, rfl⟩
  · rintro ⟨rfl, rfl⟩
    exact ⟨_, rfl, rfl, rfl⟩

theorem given_released_iff {observed : Observed (Option Client)} :
    Given (history ++ [(.release source client, observed)]) other given ↔
      Given history other given := by
  simp [Given]

/-! ### What a step comes to -/

inductive Performed (region : Option String) : Step → ServingState →
    Except Failure (Option Client) → List Event → ServingState → Prop
  | acquired {source : Source} {state after : ServingState} {outcome : Except Failure Client}
      {events : List Event} {built : List Client}
      (hprovided : Provided region source state outcome events built after) :
      Performed region (.acquire source) state (outcome.map some) events after
  | closed {source : Source} {client : Client} {state : ServingState}
      (hkind : source.kind = .token) :
      Performed region (.release source client) state
        ((state.service.closing client).map fun _ => none) [.closed client] state
  | left {source : Source} {client : Client} {state : ServingState}
      (hkind : source.kind ≠ .token) :
      Performed region (.release source client) state (.ok none) [] state

theorem runs_acquire
    (hruns : Runs (forSource region source) state outcome events after) :
    Runs ((Step.acquire source).perform region) state (outcome.map some) events after :=
  hruns.map some

theorem exists_performed (region : Option String) (step : Step) (state : ServingState) :
    ∃ outcome events after, Performed region step state outcome events after ∧
      Runs (step.perform region) state outcome events after := by
  cases step with
  | acquire source =>
    obtain ⟨outcome, events, built, after, hprovided, hruns⟩ := exists_provided region source state
    exact ⟨_, _, _, .acquired hprovided, runs_acquire hruns⟩
  | release source client =>
    by_cases hkind : source.kind = .token
    · refine ⟨_, _, _, .closed hkind, ?_⟩
      have hrelease : Runs (release source client) state (state.service.closing client)
        [.closed client] state := runs_release_token hkind
      unfold Step.perform
      cases hclosing : state.service.closing client with
      | error failure =>
        rw [hclosing] at hrelease
        exact Runs.bind_error hrelease
      | ok done =>
        rw [hclosing] at hrelease
        exact Runs.bind_quiet hrelease (Runs.pure _ _)
    · exact ⟨_, _, _, .left hkind, Runs.quiet_bind (runs_release_other hkind) (Runs.pure _ _)⟩

/-! ### The ledger -/

/-- What has been given out, against what is shared. -/
structure Ledger (region : Option String) (history : List (Step × Observed (Option Client)))
    (state : ServingState) : Prop where
  shared : ∀ key client, state.shared.find? key = some client ↔
    ∃ source, source.kind ≠ .token ∧ sharedKey source = key ∧ Given history source client
  session : ∀ source client, Given history source client →
    client.session = source.session region ∧
      client.session ∈ Event.sessions (eventsOf history)
  number : ∀ source client, Given history source client → client.number ≤ state.service.built
  /-- Only for the same kind and profile is the same client given out twice. -/
  apart : ∀ source client other given, Given history source client → Given history other given →
    client.number = given.number → sharedKey source = sharedKey other
  closed : ∀ client ∈ Event.closings (eventsOf history), ∃ source, source.kind = .token ∧
    Given history source client

namespace Ledger

theorem start (region : Option String) (service : Service) : Ledger region [] { service } where
  shared := by
    intro key client
    constructor
    · intro hfound
      cases hfound
    · rintro ⟨_, _, _, _, hnone⟩
      cases hnone
  session := fun _ _ ⟨_, hnone⟩ => nomatch hnone
  number := fun _ _ ⟨_, hnone⟩ => nomatch hnone
  apart := fun _ _ _ _ ⟨_, hnone⟩ => nomatch hnone
  closed := fun _ hnone => nomatch hnone

theorem retraced (hledger : Ledger region history state) (trace : List Event) :
    Ledger region history { state with trace } :=
  ⟨hledger.shared, hledger.session, hledger.number, hledger.apart, hledger.closed⟩

theorem give (hledger : Ledger region history state)
    (hshared : ∀ key found, after.shared.find? key = some found ↔
      state.shared.find? key = some found ∨
        source.kind ≠ .token ∧ sharedKey source = key ∧ found = client)
    (hsession : client.session = source.session region)
    (hopened : client.session ∈ Event.sessions (eventsOf history ++ events))
    (hclosings : Event.closings events = [])
    (hbuilt : state.service.built ≤ after.service.built)
    (hnumber : client.number ≤ after.service.built)
    (hapart : ∀ other given, Given history other given → given.number = client.number →
      sharedKey other = sharedKey source) :
    Ledger region
      (history ++ [(.acquire source, { outcome := (Except.ok client).map some, events })])
      after where
  shared := by
    intro key found
    rw [hshared, hledger.shared]
    constructor
    · rintro (⟨holder, hkind, hkey, hold⟩ | ⟨hkind, hkey, rfl⟩)
      · exact ⟨holder, hkind, hkey, given_acquired_iff.mpr (.inl hold)⟩
      · exact ⟨source, hkind, hkey, given_acquired_iff.mpr (.inr ⟨rfl, rfl⟩)⟩
    · rintro ⟨holder, hkind, hkey, hgiven⟩
      rcases given_acquired_iff.mp hgiven with hold | ⟨rfl, hok⟩
      · exact .inl ⟨holder, hkind, hkey, hold⟩
      · exact .inr ⟨hkind, hkey, (Except.ok.inj hok).symm⟩
  session := by
    intro holder found hgiven
    rw [eventsOf_concat]
    rcases given_acquired_iff.mp hgiven with hold | ⟨rfl, hok⟩
    · obtain ⟨hsame, hearly⟩ := hledger.session holder found hold
      rw [Event.sessions_append]
      exact ⟨hsame, List.mem_append_left _ hearly⟩
    · obtain rfl := Except.ok.inj hok
      exact ⟨hsession, hopened⟩
  number := by
    intro holder found hgiven
    rcases given_acquired_iff.mp hgiven with hold | ⟨rfl, hok⟩
    · exact Nat.le_trans (hledger.number holder found hold) hbuilt
    · obtain rfl := Except.ok.inj hok
      exact hnumber
  apart := by
    intro holder found keeper kept hfound hkept hsame
    rcases given_acquired_iff.mp hfound with holdFound | ⟨rfl, hokFound⟩ <;>
      rcases given_acquired_iff.mp hkept with holdKept | ⟨rfl, hokKept⟩
    · exact hledger.apart _ _ _ _ holdFound holdKept hsame
    · obtain rfl := Except.ok.inj hokKept
      exact hapart _ _ holdFound hsame
    · obtain rfl := Except.ok.inj hokFound
      exact (hapart _ _ holdKept hsame.symm).symm
    · rfl
  closed := by
    intro closed hclosed
    rw [eventsOf_concat, Event.closings_append, hclosings, List.append_nil] at hclosed
    obtain ⟨holder, hkind, hgiven⟩ := hledger.closed closed hclosed
    exact ⟨holder, hkind, given_acquired_iff.mpr (.inl hgiven)⟩

/-- A step that gives nothing out may close what has been given out for a token. -/
theorem pass (hledger : Ledger region history state) {entry : Step × Observed (Option Client)}
    (hgiven : ∀ source client,
      Given (history ++ [entry]) source client ↔ Given history source client)
    (hclosings : ∀ client ∈ Event.closings entry.2.events, ∃ source, source.kind = .token ∧
      Given history source client) :
    Ledger region (history ++ [entry]) state where
  shared := by simpa only [hgiven] using hledger.shared
  session := by
    intro source client hclient
    obtain ⟨hsession, hopened⟩ := hledger.session source client ((hgiven _ _).mp hclient)
    rw [eventsOf_concat, Event.sessions_append]
    exact ⟨hsession, List.mem_append_left _ hopened⟩
  number := by simpa only [hgiven] using hledger.number
  apart := by simpa only [hgiven] using hledger.apart
  closed := by
    simp only [hgiven]
    intro client hclient
    rw [eventsOf_concat, Event.closings_append] at hclient
    exact (List.mem_append.mp hclient).elim (hledger.closed client) (hclosings client)

theorem provided (hledger : Ledger region history state)
    (hprovided : Provided region source state outcome events built after) :
    Ledger region (history ++ [(.acquire source, { outcome := outcome.map some, events })])
      after := by
  cases hprovided with
  | @shared client hkind hshared =>
    obtain ⟨first, _, hkey, hgiven⟩ := (hledger.shared _ _).mp hshared
    obtain ⟨hsession, hopened⟩ := hledger.session _ _ hgiven
    refine hledger.give (fun key found => ?_) ?_ ?_ rfl (Nat.le_refl _) (hledger.number _ _ hgiven)
      fun other given hother hsame => (hledger.apart _ _ _ _ hother hgiven hsame).trans hkey
    · constructor
      · exact .inl
      · rintro (hfound | ⟨_, rfl, rfl⟩)
        · exact hfound
        · exact hshared
    · rw [hsession, Source.session_eq_of_sharedKey hkind hkey.symm]
    · rwa [List.append_nil]
  | @built client service hshared hconnect =>
    obtain ⟨rfl, rfl⟩ := Service.connect_ok hconnect
    refine hledger.give (fun key found => ?_) rfl ?_ rfl (Nat.le_succ _) (Nat.le_refl _) ?_
    · dsimp only
      unfold sharedWith
      by_cases hkind : source.kind = .token
      · simp [hkind]
      · rw [if_neg hkind]
        by_cases hkey : key = sharedKey source
        · subst hkey
          rw [OrderedMap.find?_insert_self, hshared hkind]
          simp [hkind, eq_comm]
        · rw [OrderedMap.find?_insert_of_ne _ _ hkey]
          simp [Ne.symm hkey]
    · rw [Event.sessions_append]
      exact List.mem_append_right _ List.mem_cons_self
    · intro other given hother hsame
      have hnumber := hledger.number other given hother
      dsimp only at hsame
      omega
  | unbuilt hshared hconnect =>
    refine hledger.pass (fun other given => ?_) fun closed hclosed =>
      absurd hclosed List.not_mem_nil
    rw [given_acquired_iff, or_iff_left]
    rintro ⟨_, hok⟩
    cases hok

theorem performed {step : Step} {outcome : Except Failure (Option Client)}
    (hledger : Ledger region history state)
    (hperformed : Performed region step state outcome events after)
    (hrelease : ∀ source client, step = .release source client → Given history source client) :
    Ledger region (history ++ [(step, ⟨outcome, events⟩)]) after := by
  cases hperformed with
  | acquired hprovided => exact hledger.provided hprovided
  | @closed source client _ hkind =>
    refine hledger.pass (fun _ _ => given_released_iff) fun closed hclosed => ?_
    obtain rfl := List.mem_singleton.mp hclosed
    exact ⟨source, hkind, hrelease source closed rfl⟩
  | left hkind =>
    exact hledger.pass (fun _ _ => given_released_iff) fun closed hclosed =>
      absurd hclosed List.not_mem_nil

theorem chronicle (region : Option String) (service : Service) (steps : List Step)
    (hreleases : ∀ front source client back, steps = front ++ .release source client :: back →
      Given (Serving.chronicle (Step.perform region) front { service }).1 source client) :
    Ledger region (Serving.chronicle (Step.perform region) steps { service }).1
      (Serving.chronicle (Step.perform region) steps { service }).2 := by
  induction steps using List.reverseRecOn with
  | nil => exact start region service
  | append_singleton steps step ih =>
    have hledger := ih fun front source client back hsteps =>
      hreleases front source client (back ++ [step]) (by simp [hsteps])
    obtain ⟨outcome, events, after, hperformed, hruns⟩ := exists_performed region step
      (Serving.chronicle (Step.perform region) steps { service }).2
    rw [chronicle_concat, hruns.observe]
    refine (hledger.performed hperformed ?_).retraced events
    rintro source client rfl
    exact hreleases steps source client [] rfl

end Ledger

/-! ### Sharing -/

/-- What may be said of the shared clients once so much has been given out, and of the next step. -/
structure Pooled (region : Option String) (history : List (Step × Observed (Option Client)))
    (state : ServingState) : Prop where
  /-- One client is shared for each kind and profile that clients have been given out for, tokens apart, and it is the one that was given out. -/
  shared : ∀ key client, state.shared.find? key = some client ↔
    ∃ source, source.kind ≠ .token ∧ sharedKey source = key ∧ Given history source client
  distinct : ∀ key other client given, state.shared.find? key = some client →
    state.shared.find? other = some given → client.number = given.number → key = other
  /-- Whoever asks for that kind and profile again is given the same client, and nothing else happens. -/
  again : ∀ source client other, Given history source client → source.kind ≠ .token →
    sharedKey other = sharedKey source →
      observe ((Step.acquire other).perform region) state =
        ({ outcome := .ok (some client), events := [] }, { state with trace := [] })
  /-- A client stands on the session of the source that it was given out for, and that session was opened. -/
  session : ∀ source client, Given history source client →
    client.session = source.session region ∧
      client.session ∈ Event.sessions (eventsOf history)
  /-- A token is given a client that nobody was given before, and no other client comes to be shared. -/
  token : ∀ source, source.kind = .token →
    let acquired := observe ((Step.acquire source).perform region) state
    acquired.2.shared = state.shared ∧
      ∀ client, acquired.1.outcome = .ok (some client) →
        ∀ other given, Given history other given → given.number ≠ client.number
  /-- When no client can be built nothing changes, and whoever asks next has it tried again. -/
  failed : ∀ source failure,
    let acquired := observe ((Step.acquire source).perform region) state
    acquired.1.outcome = .error failure →
      acquired.2 = { state with trace := acquired.1.events } ∧
        ∀ other, sharedKey other = sharedKey source →
          (observe ((Step.acquire other).perform region) acquired.2).1.events =
            [.opened (other.session region)]
  unclosed : ∀ key client, state.shared.find? key = some client →
    ∀ closed ∈ Event.closings (eventsOf history), closed.number ≠ client.number

namespace Ledger

theorem observe_again (hledger : Ledger region history state) (hgiven : Given history source client)
    (hkind : source.kind ≠ .token) (hkey : sharedKey other = sharedKey source) :
    observe ((Step.acquire other).perform region) state =
      ({ outcome := .ok (some client), events := [] }, { state with trace := [] }) := by
  have hshared := (hledger.shared _ _).mpr ⟨source, hkind, hkey.symm, hgiven⟩
  have hother : other.kind ≠ .token := by
    rwa [show other.kind = source.kind from congrArg Prod.fst hkey]
  obtain ⟨outcome, events, built, after, hprovided, hruns⟩ := exists_provided region other state
  rw [(runs_acquire hruns).observe]
  cases hprovided with
  | shared _ hfound =>
    obtain rfl := Option.some.inj (hfound.symm.trans hshared)
    rfl
  | built hnone hconnect => exact nomatch (hnone hother).symm.trans hshared
  | unbuilt hnone hconnect => exact nomatch (hnone hother).symm.trans hshared

theorem pooled (hledger : Ledger region history state) : Pooled region history state where
  shared := hledger.shared
  distinct := by
    intro key other client given hclient hgiven hsame
    obtain ⟨source, _, rfl, hsource⟩ := (hledger.shared _ _).mp hclient
    obtain ⟨holder, _, rfl, hholder⟩ := (hledger.shared _ _).mp hgiven
    exact hledger.apart _ _ _ _ hsource hholder hsame
  again := fun _ _ _ => hledger.observe_again
  session := hledger.session
  token := by
    intro source hkind acquired
    obtain ⟨outcome, events, built, after, hprovided, hruns⟩ := exists_provided region source state
    have hacquired : acquired = _ := (runs_acquire hruns).observe
    rw [hacquired]
    cases hprovided with
    | shared hother => exact absurd hkind hother
    | unbuilt hshared hconnect => exact ⟨rfl, fun client hok => nomatch hok⟩
    | built hshared hconnect =>
      obtain ⟨rfl, rfl⟩ := Service.connect_ok hconnect
      refine ⟨if_pos hkind, fun client hok other given hgiven hsame => ?_⟩
      obtain rfl := Option.some.inj (Except.ok.inj hok)
      have hnumber := hledger.number other given hgiven
      dsimp only at hsame
      omega
  failed := by
    intro source failure acquired houtcome
    obtain ⟨outcome, events, built, after, hprovided, hruns⟩ := exists_provided region source state
    have hacquired : acquired = _ := (runs_acquire hruns).observe
    rw [hacquired] at houtcome ⊢
    cases hprovided with
    | shared hkind hshared => cases houtcome
    | built hshared hconnect => cases houtcome
    | unbuilt hshared hconnect =>
      refine ⟨rfl, fun other hkey => ?_⟩
      obtain ⟨outcome, events, built, after, hprovided, hruns⟩ := exists_provided region other
        { state with trace := [.opened (source.session region)] }
      rw [(runs_acquire hruns).observe]
      cases hprovided with
      | shared hkind hfound =>
        have hsource : source.kind ≠ .token := by
          rwa [show source.kind = other.kind from congrArg Prod.fst hkey.symm]
        have hnone : state.shared.find? (sharedKey other) = none := hkey ▸ hshared hsource
        exact nomatch hnone.symm.trans hfound
      | built => rfl
      | unbuilt => rfl
  unclosed := by
    intro key client hclient closed hclosed hsame
    obtain ⟨source, hkind, _, hsource⟩ := (hledger.shared _ _).mp hclient
    obtain ⟨holder, hholder, hgiven⟩ := hledger.closed closed hclosed
    have hkey := hledger.apart _ _ _ _ hgiven hsource hsame
    exact hkind ((congrArg Prod.fst hkey).symm.trans hholder)

end Ledger

/-- However clients are asked for, and handed back if they were given out for that very source, those that are shared are one for each kind and profile, and stay. -/
theorem shared_clients_kept (region : Option String) (service : Service) (steps : List Step)
    (hreleases : ∀ front source client back, steps = front ++ .release source client :: back →
      Given (chronicle (Step.perform region) front { service }).1 source client) :
    let reached := chronicle (Step.perform region) steps { service }
    Pooled region reached.1 reached.2 :=
  (Ledger.chronicle region service steps hreleases).pooled

/-- After a client for a token has come and gone the ambient one is still shared, and given to a source with credentials that do not count. -/
theorem shared_clients_kept_after_release :
    let credentials : SessionCredentials := ⟨"AKIA", "s", "t"⟩
    let client : Client := { number := 2, session := (Source.token credentials).session none }
    let steps : List Step :=
      [.acquire .ambient, .acquire (.token credentials), .release (.token credentials) client]
    let reached := chronicle (Step.perform none) steps {}
    (∀ front source client back, steps = front ++ .release source client :: back →
        Given (chronicle (Step.perform none) front {}).1 source client) ∧
      Pooled none reached.1 reached.2 ∧
      (observe ((Step.acquire { kind := .ambient, credentials }).perform none) reached.2).1 =
        { outcome := .ok (some { number := 1, session := Source.ambient.session none })
          events := [] } := by
  intro credentials client steps reached
  have hreleases : ∀ front source client back, steps = front ++ .release source client :: back →
      Given (chronicle (Step.perform none) front {}).1 source client := by
    intro front source given back hsteps
    rcases front with _ | ⟨first, _ | ⟨second, _ | ⟨third, front⟩⟩⟩
    · simp [steps] at hsteps
    · simp [steps] at hsteps
    · simp only [steps, List.cons_append, List.nil_append, List.cons.injEq,
        Step.release.injEq] at hsteps
      obtain ⟨rfl, rfl, ⟨rfl, rfl⟩, rfl⟩ := hsteps
      exact ⟨[.opened ((Source.token credentials).session none)], .tail _ (.head _)⟩
    · simp [steps] at hsteps
  have hpooled : Pooled none reached.1 reached.2 := shared_clients_kept none {} steps hreleases
  have hgiven : Given reached.1 .ambient
      { number := 1, session := Source.ambient.session none } :=
    ⟨[.opened (Source.ambient.session none)], .head _⟩
  exact ⟨hreleases, hpooled, congrArg Prod.fst
    (hpooled.again _ _ { kind := .ambient, credentials } hgiven (by decide) rfl)⟩

end Clients
end ParameterConfig
