import ParameterConfig.Proofs.Availability
import ParameterConfig.Proofs.Credentials
import ParameterConfig.Proofs.Isolation

/-!
# The life of a client

A client for a token lives for one request. It is built when the first segment with its credentials is served, found again by later segments with the same credentials, and closed when the segments are over, whether they succeeded or not; after that nobody calls it. A client for a profile, or for the identity of the surroundings, is built once and never closed. `clients_managed` says so of every request after every run, as long as closing a client does not itself fail.
-/

namespace ParameterConfig

namespace Event

/-- Whoever is closed is neither called nor closed again. -/
def ClosedForGood (events : List Event) : Prop :=
  ∀ front client back, events = front ++ .closed client :: back →
    (∀ call ∈ calls back, call.1.number ≠ client.number) ∧
      ∀ other ∈ closings back, other.number ≠ client.number

namespace ClosedForGood

variable {first second : List Event}

theorem of_no_closings (hclosings : closings first = []) : ClosedForGood first := by
  rintro front client back rfl
  simp [closings, closing?] at hclosings

theorem of_no_calls (hcalls : calls first = [])
    (honce : ((closings first).map Client.number).Nodup) : ClosedForGood first := by
  rintro front client back rfl
  have hparts : calls (front ++ .closed client :: back) = calls front ++ calls back := by
    simp [calls, List.filterMap_cons, call?]
  have hsplit : closings (front ++ .closed client :: back) =
      closings front ++ client :: closings back := by
    simp [closings, closing?]
  have hback : calls back = [] := (List.append_eq_nil_iff.mp (hparts ▸ hcalls)).2
  rw [hsplit, List.map_append, List.map_cons] at honce
  have hlater := (List.nodup_cons.mp (List.nodup_append.mp honce).2.1).1
  refine ⟨fun call hcall => by simp [hback] at hcall, fun other hother hnumber => ?_⟩
  exact hlater (List.mem_map.mpr ⟨other, hother, hnumber⟩)

/-- Those closed in a first part must stay out of the second. -/
theorem append (hfirst : ClosedForGood first) (hsecond : ClosedForGood second)
    (hcalls : ∀ client ∈ closings first, ∀ call ∈ calls second, call.1.number ≠ client.number)
    (hclosings : ∀ client ∈ closings first, ∀ other ∈ closings second,
      other.number ≠ client.number) : ClosedForGood (first ++ second) := by
  intro front client back heq
  rcases List.append_eq_append_iff.mp heq with ⟨between, rfl, hclosed⟩ | ⟨between, hparts, hlater⟩
  · exact hsecond between client back hclosed
  · cases between with
    | nil => exact hsecond [] client back (by simpa using hlater.symm)
    | cons event rest =>
      rw [List.cons_append, List.cons.injEq] at hlater
      obtain ⟨rfl, rfl⟩ := hlater
      obtain ⟨hrestCalls, hrestClosings⟩ := hfirst front client rest hparts
      have hmem : client ∈ closings first := by
        rw [hparts]
        simp [closings, closing?]
      constructor
      · intro call hcall
        rw [calls_append] at hcall
        exact (List.mem_append.mp hcall).elim (hrestCalls call) (hcalls client hmem call)
      · intro other hother
        rw [closings_append] at hother
        exact (List.mem_append.mp hother).elim (hrestClosings other) (hclosings client hmem other)

end ClosedForGood
end Event

/-! ### A request in progress -/

/-- Where a request stands that has had these events and built these clients. A session without a client is the last one, and the request ends with it. -/
structure Underway (events : List Event) (fresh : List Client) (failed : List Session)
    (state : ServingState) : Prop where
  sessions : Event.sessions events = fresh.map Client.session ++ failed
  once : (Event.sessions events).Nodup
  called : ∀ call ∈ Event.calls events, call.1.forToken = false ∨ call.1 ∈ fresh
  owned : ∀ client ∈ fresh, client ∈ state.held.values
  tokens : Clients.tokenClients state.held.entries = fresh.filter Client.forToken

namespace Clients

theorem tokenClients_append (first second : List (Source × Client)) :
    tokenClients (first ++ second) = tokenClients first ++ tokenClients second := by
  simp only [tokenClients, List.filter_append, List.map_append]

end Clients

namespace Underway

variable {region : Option String} {events added : List Event} {fresh built roster : List Client}
  {failed : List Session} {state after : ServingState} {first : Nat} {past : List Event}
  {source : Source} {client : Client}

theorem start (state : ServingState) : Underway [] [] [] { state with held := ∅ } where
  sessions := rfl
  once := List.nodup_nil
  called := fun _ hcall => nomatch hcall
  owned := fun _ hclient => nomatch hclient
  tokens := rfl

theorem of_same_held (hunderway : Underway events fresh failed state)
    (hheld : after.held = state.held) : Underway events fresh failed after where
  sessions := hunderway.sessions
  once := hunderway.once
  called := hunderway.called
  owned := by rw [hheld]; exact hunderway.owned
  tokens := by rw [hheld]; exact hunderway.tokens

theorem append (hunderway : Underway events fresh failed state)
    (hsessions : Event.sessions added = [])
    (hcalled : ∀ call ∈ Event.calls added, call.1.forToken = false ∨ call.1 ∈ fresh) :
    Underway (events ++ added) fresh failed state where
  sessions := by rw [Event.sessions_append, hsessions, List.append_nil, hunderway.sessions]
  once := by
    rw [Event.sessions_append, hsessions, List.append_nil]
    exact hunderway.once
  called := by
    intro call hcall
    rw [Event.calls_append] at hcall
    exact (List.mem_append.mp hcall).elim (hunderway.called call) (hcalled call)
  owned := hunderway.owned
  tokens := hunderway.tokens

theorem logged (hunderway : Underway events fresh failed state) (records : List Log.Record) :
    Underway (events ++ records.map .logged) fresh failed state :=
  hunderway.append (by simp) (by simp)

/-- A source that no client is held for has had no session in this request. -/
theorem session_not_mem (hunderway : Underway events fresh [] state)
    (haccount : Accounted region first past roster state) (hsource : source.Resolved)
    (hheld : state.held.find? source = none) :
    source.session region ∉ Event.sessions events := by
  intro hsession
  rw [hunderway.sessions, List.append_nil] at hsession
  obtain ⟨other, hother, hsame⟩ := List.mem_map.mp hsession
  obtain ⟨entry, hentry, rfl⟩ := List.mem_map.mp (hunderway.owned other hother)
  obtain ⟨hresolved, _, hentrySession⟩ := haccount.held entry hentry
  have hown : entry.1 = source :=
    hresolved.eq_of_session_eq hsource (hentrySession.symm.trans hsame)
  exact OrderedMap.find?_eq_none.mp hheld (List.mem_map.mpr ⟨entry, hentry, hown⟩)

/-- A client held for a source is one of this request, unless it is a shared one. -/
theorem shared_or_fresh (hunderway : Underway events fresh failed state)
    (haccount : Accounted region first past roster state)
    (hentry : (source, client) ∈ state.held.entries) :
    client.forToken = false ∨ client ∈ fresh := by
  obtain ⟨hresolved, _, hsession⟩ := haccount.held _ hentry
  by_cases hkind : source.kind = .token
  · have htoken : client ∈ Clients.tokenClients state.held.entries :=
      List.mem_map.mpr ⟨_, List.mem_filter.mpr ⟨hentry, by simpa using hkind⟩, rfl⟩
    rw [hunderway.tokens] at htoken
    exact .inr (List.mem_filter.mp htoken).1
  · refine .inl ?_
    rw [← Bool.not_eq_true, hresolved.forToken_iff hsession]
    exact hkind

theorem hold (hunderway : Underway events fresh [] state)
    (hheld : state.held.find? source = none)
    (hsessions : Event.sessions added = built.map Client.session)
    (honce : (Event.sessions (events ++ added)).Nodup) (hcalls : Event.calls added = [])
    (hbuilt : ∀ other ∈ built, other = client)
    (hfresh : built.filter Client.forToken = if source.kind = .token then [client] else []) :
    Underway (events ++ added) (fresh ++ built) []
      { state with held := state.held.insert source client } where
  sessions := by
    rw [Event.sessions_append, hunderway.sessions, hsessions, List.map_append, List.append_nil,
      List.append_nil]
  once := honce
  called := by
    intro call hcall
    rw [Event.calls_append, hcalls, List.append_nil] at hcall
    exact (hunderway.called call hcall).imp_right (List.mem_append_left built)
  owned := by
    intro other hother
    dsimp only
    rw [OrderedMap.values_insert_of_new hheld]
    rcases List.mem_append.mp hother with hold | hnew
    · exact List.mem_append_left _ (hunderway.owned other hold)
    · exact List.mem_append_right _ (List.mem_singleton.mpr (hbuilt other hnew))
  tokens := by
    dsimp only
    rw [OrderedMap.entries_insert_of_new hheld, Clients.tokenClients_append, hunderway.tokens,
      List.filter_append, hfresh, Clients.tokenClients_cons]
    rfl

theorem acquired_ok
    (hacquired : Clients.Acquired region source state (.ok client) added built after)
    (hsource : source.Resolved) (haccount : Accounted region first past roster state)
    (hunderway : Underway events fresh [] state) :
    Underway (events ++ added) (fresh ++ built) [] after := by
  cases hacquired with
  | held hheld =>
    rw [List.append_nil, List.append_nil]
    exact hunderway
  | provided hheld hprovided =>
    cases hprovided with
    | shared hkind hshared =>
      refine hunderway.hold hheld rfl ?_ rfl (fun _ hother => nomatch hother) ?_
      · rw [List.append_nil]
        exact hunderway.once
      · rw [if_neg hkind]
        rfl
    | @built _ service hshared hconnect =>
      have hsession : client.session = source.session region := by
        rw [(Service.connect_ok hconnect).1]
      have hconnected : Underway events fresh [] { state with
          service, shared := Clients.sharedWith source client state.shared } :=
        hunderway.of_same_held rfl
      refine hconnected.hold hheld ?_ ?_ rfl ?_ ?_
      · rw [Event.sessions_opened, List.map_singleton, hsession]
      · rw [Event.sessions_append, Event.sessions_opened, List.nodup_append_comm,
          List.singleton_append, List.nodup_cons]
        exact ⟨hunderway.session_not_mem haccount hsource hheld, hunderway.once⟩
      · exact fun other hother => List.mem_singleton.mp hother
      · have htoken := hsource.forToken_iff hsession
        by_cases hkind : source.kind = .token
        · rw [if_pos hkind, List.filter_cons_of_pos (htoken.mpr hkind), List.filter_nil]
        · rw [if_neg hkind, List.filter_cons_of_neg (hkind ∘ htoken.mp), List.filter_nil]

theorem acquired_error {failure : Failure}
    (hacquired : Clients.Acquired region source state (.error failure) added built after)
    (hsource : source.Resolved) (haccount : Accounted region first past roster state)
    (hunderway : Underway events fresh [] state) :
    Underway (events ++ added) (fresh ++ built) [source.session region] after := by
  cases hacquired with
  | refused hheld hprovided =>
    cases hprovided with
    | unbuilt hshared hconnect =>
      rw [List.append_nil]
      refine { hunderway with sessions := ?_, once := ?_, called := ?_ }
      · rw [Event.sessions_append, hunderway.sessions, Event.sessions_opened, List.append_nil]
      · rw [Event.sessions_append, Event.sessions_opened, List.nodup_append_comm,
          List.singleton_append, List.nodup_cons]
        exact ⟨hunderway.session_not_mem haccount hsource hheld, hunderway.once⟩
      · intro call hcall
        rw [Event.calls_append, Event.calls_opened, List.append_nil] at hcall
        exact hunderway.called call hcall

/-! ### Segments -/

variable {repository : Repository} {query : Query}

theorem served {profile : String} {outcome : Except Failure PropertySource}
    (hserved : Repository.Served repository query profile state outcome added built after)
    (haccount : Accounted repository.properties.region first past roster state)
    (hunderway : Underway events fresh [] state) :
    ∃ failed, Underway (events ++ added) (fresh ++ built) failed after ∧ failed.length ≤ 1 ∧
      ∀ propertySource, outcome = .ok propertySource → failed = [] := by
  cases hserved with
  | unresolved hsource =>
    rw [List.append_nil, List.append_nil]
    exact ⟨[], hunderway.of_same_held rfl, Nat.zero_le _, fun _ _ => rfl⟩
  | unconnected hsource hacquired =>
    have htaken : Underway (events ++ (Repository.tokenRecords state.token).map .logged) fresh []
        state.tokenTaken := (hunderway.logged _).of_same_held rfl
    have hafter := htaken.acquired_error hacquired (Repository.sourceFor_resolved hsource)
      haccount.tokenTaken
    rw [List.append_assoc] at hafter
    exact ⟨_, hafter, Nat.le_refl 1, fun _ houtcome => nomatch houtcome⟩
  | @read source client acquiring _ middle path reading hsource hacquired hpath hreading =>
    have hresolved := Repository.sourceFor_resolved hsource
    have htaken : Underway (events ++ (Repository.tokenRecords state.token).map .logged) fresh []
        state.tokenTaken := (hunderway.logged _).of_same_held rfl
    have hmiddle := htaken.acquired_ok hacquired hresolved haccount.tokenTaken
    obtain ⟨hlisted, hclient⟩ := haccount.tokenTaken.acquired hacquired hresolved
    have hcaller := hmiddle.shared_or_fresh hlisted (hclient client rfl)
    have hcalled : Underway (events ++ (Repository.tokenRecords state.token).map .logged ++
        acquiring ++ reading.requests.map (.called client)) (fresh ++ built) [] middle := by
      refine hmiddle.append (by simp) fun call hcall => ?_
      rw [Event.calls_called] at hcall
      obtain ⟨request, _, rfl⟩ := List.mem_map.mp hcall
      exact hcaller
    have hrecords := hcalled.logged (Repository.readingRecords query path source reading)
    simp only [List.append_assoc] at hrecords
    exact ⟨[], hrecords.of_same_held rfl, Nat.zero_le _, fun _ _ => rfl⟩

theorem servedAll {profiles : List String} {all : List Repository.Segment}
    {outcome : Except Failure (List PropertySource)}
    (hall : Repository.ServedAll repository query profiles state all built outcome after)
    (haccount : Accounted repository.properties.region first past roster state)
    (hunderway : Underway events fresh [] state) :
    ∃ failed, failed.length ≤ 1 ∧
      Underway (events ++ all.flatMap Repository.Segment.events) (fresh ++ built) failed after := by
  induction hall generalizing events fresh past roster with
  | nil => exact ⟨[], Nat.zero_le _, by simpa using hunderway⟩
  | stop hserved =>
    obtain ⟨failed, hafter, hlast, _⟩ := hunderway.served hserved haccount
    rw [List.flatMap_singleton]
    exact ⟨failed, hlast, hafter.of_same_held rfl⟩
  | next hserved hrest ih =>
    obtain ⟨failed, hmiddle, _, hnone⟩ := hunderway.served hserved haccount
    rw [hnone _ rfl] at hmiddle
    rw [List.flatMap_cons, ← List.append_assoc, ← List.append_assoc]
    exact ih ((haccount.served hserved).retraced _) (hmiddle.of_same_held rfl)

end Underway

/-! ### Requests after any run -/

namespace Repository

open Serving

/-- How a request manages the clients it builds, seen from the events before it and its own. -/
structure Managed (repository : Repository) (query : Query) (before after : ServingState)
    (past events : List Event) (built : List Client) : Prop where
  /-- The clients built are numbered on from those built before. -/
  numbers : built.map Client.number = List.range' (before.service.built + 1) built.length
  count : after.service.built = before.service.built + built.length
  /-- They are the new ones among those called. -/
  called : ∀ client ∈ built, ∃ request, (client, request) ∈ Event.calls events
  fresh : ∀ call ∈ Event.calls events, before.service.built < call.1.number → call.1 ∈ built
  /-- Each stands on a session of its own, and no more than one session is without a client. -/
  sessions : ∃ failed, Event.sessions events = built.map Client.session ++ failed ∧
    failed.length ≤ 1
  once : (Event.sessions events).Nodup
  /-- A session is opened only for the source of a segment. -/
  needed : ∀ session ∈ Event.sessions events, ∃ segment ∈ repository.segments query before,
    ∃ source, (observe repository.resolve segment.before).1.outcome = .ok source ∧
      session = source.session repository.properties.region
  /-- Clients that are not for tokens are shared once they have been built, and no session is opened where one is shared. -/
  shared : ∀ call ∈ Event.calls past, call.1.forToken = false → call.1 ∈ before.shared.values
  unshared : ∀ session ∈ Event.sessions events,
    session ∉ before.shared.values.map Client.session
  /-- Those for tokens are closed in the order in which they were built, after the last call. -/
  closed : Event.closings events = built.filter Client.forToken
  afterCalls : ∃ served ending, events = served ++ ending ∧ Event.closings served = [] ∧
    Event.calls ending = []
  /-- Nobody else is closed, and nobody closed is heard of again. -/
  tokensOnly : ∀ client ∈ Event.closings (past ++ events), client.forToken = true
  forGood : Event.ClosedForGood (past ++ events)

variable {repository : Repository} {query : Query} {before after : ServingState}
  {outcome : Except Failure Environment} {past events : List Event} {built roster : List Client}
  {first : Nat}

theorem session_unshared {source : Source} {region : Option String}
    (haccount : Accounted region first past roster before) (hsource : source.Resolved)
    (hnew : source.kind ≠ .token → before.shared.find? (Clients.sharedKey source) = none) :
    source.session region ∉ before.shared.values.map Client.session := by
  intro hshared
  obtain ⟨client, hclient, hsession⟩ := List.mem_map.mp hshared
  obtain ⟨hroster, hplain⟩ := haccount.shared client hclient
  obtain ⟨own, hown, hownSession, hfound⟩ := haccount.kept client hroster hplain
  have hsame : own = source := hown.eq_of_session_eq hsource (hownSession.symm.trans hsession)
  subst hsame
  have hkind : own.kind ≠ .token := by
    rw [Ne, ← hown.forToken_iff hownSession, hplain]
    decide
  rw [hnew hkind] at hfound
  cases hfound

theorem shared_of_plain {region : Option String} {client : Client}
    (haccount : Accounted region first past roster before) (hroster : client ∈ roster)
    (hplain : client.forToken = false) : client ∈ before.shared.values := by
  obtain ⟨own, _, _, hfound⟩ := haccount.kept client hroster hplain
  exact List.mem_map.mpr ⟨_, OrderedMap.mem_entries_of_find? hfound, rfl⟩

theorem closedForGood_request {served : List Event} {closed : List Client}
    (records : List Log.Record) (hserved : Event.closings served = [])
    (honce : (closed.map Client.number).Nodup) :
    Event.ClosedForGood (served ++ (closed.map .closed ++ records.map .logged)) := by
  refine (Event.ClosedForGood.of_no_closings hserved).append
    (Event.ClosedForGood.of_no_calls (by simp) (by simpa using honce)) ?_ ?_
  · rw [hserved]
    exact fun client hclient => nomatch hclient
  · rw [hserved]
    exact fun client hclient => nomatch hclient

/-- A request has nothing to do with clients that were closed before it. -/
theorem closedForGood_append
    (haccount : Accounted repository.properties.region first past roster before)
    (hafter : Accounted repository.properties.region first (past ++ events) (roster ++ built)
      after)
    (hcalled : ∀ call ∈ Event.calls events, call.1.forToken = false ∨ call.1 ∈ built)
    (hclosed : ∀ client ∈ Event.closings events, client ∈ built)
    (hpast : Event.ClosedForGood past) (hevents : Event.ClosedForGood events) :
    Event.ClosedForGood (past ++ events) := by
  refine hpast.append hevents ?_ ?_
  · intro client hclient call hcall hnumber
    obtain ⟨hroster, htoken⟩ := haccount.closed client hclient
    have hsame : call.1 = client := hafter.eq_of_number_eq (hafter.listed_of_called hcall)
      (List.mem_append_left _ hroster) hnumber
    rcases hcalled call hcall with hplain | hbuilt
    · rw [hsame, htoken] at hplain
      cases hplain
    · have hlate := haccount.lt_number_of_built hafter hbuilt
      have hearly := haccount.number_le hroster
      omega
  · intro client hclient other hother hnumber
    have hlate := haccount.lt_number_of_built hafter (hclosed other hother)
    have hearly := haccount.number_le (haccount.closed client hclient).1
    omega

theorem Requested.managed
    (hrequested : Requested repository query before outcome events built after)
    (haccount : Accounted repository.properties.region first past roster before)
    (hcloses : before.service.failingCloses = []) (hpast : Event.ClosedForGood past) :
    Managed repository query before after past events built := by
  have hafter := haccount.requested hrequested
  have hnumbers := haccount.numbers_built hafter
  cases hrequested with
  | @intro _ middle _ closed records held hall hheld hinitial hclosed =>
    obtain ⟨failed, hlast, hunderway⟩ :=
      (Underway.start before).servedAll hall haccount.request_start
    rw [List.nil_append, List.nil_append] at hunderway
    obtain ⟨script, count, hservice⟩ := hall.service_eq
    have hclosings : closed = built.filter Client.forToken := by
      rw [(hclosed (by rw [hservice]; exact hcloses)).1, hunderway.tokens]
    have hsessions := Event.sessions_ending
      ((repository.segments query before).flatMap Segment.events) closed records
    have hcalls := Event.calls_ending
      ((repository.segments query before).flatMap Segment.events) closed records
    have hclosedEvents := Event.closings_ending
      ((repository.segments query before).flatMap Segment.events) closed records
    rw [hall.closings_eq_nil, List.nil_append] at hclosedEvents
    have honce : (closed.map Client.number).Nodup := by
      have hbuilt : (built.map Client.number).Nodup := hnumbers ▸ List.nodup_range'
      rw [hclosings]
      exact hbuilt.sublist (List.filter_sublist.map Client.number)
    refine
      { numbers := hnumbers, count := ?_, called := ?_, fresh := ?_
        sessions := ⟨failed, hsessions ▸ hunderway.sessions, hlast⟩
        once := hsessions ▸ hunderway.once, needed := ?_, shared := ?_, unshared := ?_
        closed := hclosedEvents.trans hclosings
        afterCalls := ⟨_, _, rfl, hall.closings_eq_nil, by simp⟩, tokensOnly := ?_
        forGood := ?_ }
    · have hbuilt := hafter.built
      rw [List.length_append, ← Nat.add_assoc, ← haccount.built] at hbuilt
      exact hbuilt
    · rw [hcalls]
      exact hall.called_of_built
    · exact fun call hcall hnumber => haccount.built_of_called hafter hcall hnumber
    · intro session hsession
      rw [hsessions] at hsession
      obtain ⟨segment, hsegment, source, hsource, hsame, _⟩ := hall.opened session hsession
      refine ⟨segment, hsegment, source, ?_, hsame⟩
      rw [(runs_resolve repository segment.before).observe]
      exact hsource
    · intro call hcall hplain
      exact shared_of_plain haccount (haccount.called call hcall) hplain
    · intro session hsession
      rw [hsessions] at hsession
      obtain ⟨segment, _, source, hsource, hsame, hunshared⟩ := hall.opened session hsession
      rw [hsame]
      exact session_unshared haccount (sourceFor_resolved hsource) hunshared
    · exact fun client hclient => (hafter.closed client hclient).2
    · refine closedForGood_append haccount hafter ?_ ?_ hpast
        (closedForGood_request records hall.closings_eq_nil honce)
      · rw [hcalls]
        exact hunderway.called
      · rw [hclosedEvents, hclosings]
        exact fun client hclient => (List.mem_filter.mp hclient).1

theorem closedForGood_history (repository : Repository) {service : Service}
    (provider : TokenProvider) (bindings : Bindings) (steps : List Step)
    (hcloses : service.failingCloses = []) :
    ∃ roster, Accounted repository.properties.region service.built
        (repository.history steps { service, provider, bindings }) roster
        (repository.run steps { service, provider, bindings }).2 ∧
      (repository.run steps { service, provider, bindings }).2.service.failingCloses = [] ∧
      Event.ClosedForGood (repository.history steps { service, provider, bindings }) := by
  refine run_induction
    (fun past state => ∃ roster,
      Accounted repository.properties.region service.built past roster state ∧
        state.service.failingCloses = [] ∧ Event.ClosedForGood past)
    (fun past state trace hstate => ?_) (fun past state store script bindings hstate => ?_)
    (fun past query state outcome events built after hrequested hstate => ?_)
    ⟨[], .start service provider bindings, hcloses, .of_no_closings rfl⟩ steps
  · obtain ⟨roster, haccount, hcloses, hpast⟩ := hstate
    exact ⟨roster, haccount.retraced trace, hcloses, hpast⟩
  · obtain ⟨roster, haccount, hcloses, hpast⟩ := hstate
    exact ⟨roster, haccount.of_same_clients rfl rfl fun _ hentry => hentry, hcloses, hpast⟩
  · obtain ⟨roster, haccount, hcloses, hpast⟩ := hstate
    obtain ⟨script, count, hservice⟩ := hrequested.service_eq
    refine ⟨roster ++ built, haccount.requested hrequested, ?_,
      (hrequested.managed haccount hcloses hpast).forGood⟩
    rw [hservice]
    exact hcloses

/-! ### Requests with a token -/

/-- A token that is new to a request has a client built for it, which is held from then on. -/
theorem Served.of_new_token {profile : String} {state after : ServingState}
    {outcome : Except Failure PropertySource} {events : List Event}
    {credentials : SessionCredentials} {client : Client} {service : Service}
    (hserved : Served repository query profile state outcome events built after)
    (hsource : repository.sourceFor state.token = .ok (.token credentials))
    (hheld : state.held.find? (.token credentials) = none)
    (hconnect : state.service.connect
      ((Source.token credentials).session repository.properties.region) = .ok (client, service)) :
    built = [client] ∧ after.service.built = service.built ∧
      after.held = state.held.insert (.token credentials) client := by
  cases hserved with
  | unresolved hfailed => exact nomatch hfailed.symm.trans hsource
  | unconnected hsame hacquired =>
    obtain rfl := Except.ok.inj (hsame.symm.trans hsource)
    cases hacquired with
    | refused _ hprovided =>
      cases hprovided with
      | unbuilt _ hfailed => exact nomatch hfailed.symm.trans hconnect
  | @read _ _ _ _ _ path _ hsame hacquired _ hreading =>
    obtain rfl := Except.ok.inj (hsame.symm.trans hsource)
    cases hacquired with
    | held hfound => exact nomatch hfound.symm.trans hheld
    | provided _ hprovided =>
      cases hprovided with
      | shared hkind => exact absurd rfl hkind
      | @built _ connected _ hbuilt =>
        obtain ⟨rfl, rfl⟩ := Prod.mk.inj (Except.ok.inj (hbuilt.symm.trans hconnect))
        obtain ⟨script, hservice⟩ := connected.readPages_service path none
        refine ⟨rfl, ?_, rfl⟩
        rw [hreading]
        show (connected.readPages path none).service.built = _
        rw [hservice]

theorem ServedAll.exists_first {profile : String} {rest : List String} {state after : ServingState}
    {all : List Segment} {outcome : Except Failure (List PropertySource)}
    (hall : ServedAll repository query (profile :: rest) state all built outcome after) :
    ∃ served events fresh middle more,
      Served repository query profile state served events fresh middle ∧ built = fresh ++ more ∧
      ∀ propertySource, served = .ok propertySource → ∃ later outcome,
        ServedAll repository query rest { middle with trace := events } later more outcome after := by
  cases hall with
  | stop hserved =>
    exact ⟨_, _, _, _, [], hserved, (List.append_nil _).symm, fun _ hok => nomatch hok⟩
  | next hserved hrest => exact ⟨_, _, _, _, _, hserved, rfl, fun _ _ => ⟨_, _, hrest⟩⟩

theorem closed_of_new_token {profile : String} {rest : List String}
    {credentials : SessionCredentials} (hprofiles : splitProfiles query.profiles = profile :: rest)
    (hsource : repository.sourceFor before.token = .ok (.token credentials))
    (hadmission : before.service.admission
      ((Source.token credentials).session repository.properties.region) = .ok ())
    (haccount : Accounted repository.properties.region first past roster before)
    (hcloses : before.service.failingCloses = []) (hpast : Event.ClosedForGood past) :
    { number := before.service.built + 1
      session := (Source.token credentials).session repository.properties.region } ∈
        Event.closings (observe (repository.findOne query) before).1.events := by
  obtain ⟨outcome, events, built, after, hrequested, hruns⟩ :=
    exists_requested repository query before
  have hmanaged := hrequested.managed haccount hcloses hpast
  have hconnect := before.service.connect_eq
    ((Source.token credentials).session repository.properties.region)
  rw [hadmission] at hconnect
  rw [hruns.observe]
  refine hmanaged.closed ▸ List.mem_filter.mpr ⟨?_, rfl⟩
  cases hrequested with
  | intro _ _ hall =>
    rw [hprofiles] at hall
    obtain ⟨_, _, _, _, _, hserved, rfl, _⟩ := hall.exists_first
    have hnone : (∅ : OrderedMap Source Client).find? (.token credentials) = none := rfl
    obtain ⟨rfl, _⟩ := hserved.of_new_token hsource hnone hconnect
    exact List.mem_append_left _ (List.mem_singleton_self _)

/-- In a run with one token throughout, every request closes a client for it. -/
theorem exists_closed_of_fixed (repository : Repository) {service : Service} {token : String}
    {credentials : SessionCredentials} {profile : String} {rest : List String} (bindings : Bindings)
    (steps : List Step) (query : Query) (hprofiles : splitProfiles query.profiles = profile :: rest)
    (hread : SessionCredentials.read token = .ok credentials)
    (hadmission : service.admission
      ((Source.token credentials).session repository.properties.region) = .ok ())
    (hcloses : service.failingCloses = []) :
    ∃ client ∈ Event.closings (observe (repository.findOne query)
        (repository.run steps { service, provider := .fixed (some token), bindings }).2).1.events,
      client.session = (Source.token credentials).session repository.properties.region := by
  obtain ⟨roster, haccount, hclosable, hpast⟩ :=
    closedForGood_history repository (.fixed (some token)) bindings steps hcloses
  have hprovider := @run_provider_eq repository steps
    { service, provider := .fixed (some token), bindings } fun _ hsame => nomatch hsame
  obtain ⟨store, script, count, hservice⟩ :=
    repository.run_service_eq steps { service, provider := .fixed (some token), bindings }
  generalize (repository.run steps { service, provider := .fixed (some token), bindings }).2 =
    before at *
  have hsource : repository.sourceFor before.token = .ok (.token credentials) := by
    rw [ServingState.token, hprovider]
    exact sourceFor_of_read hread
  refine ⟨_, closed_of_new_token hprofiles hsource ?_ haccount hclosable hpast, rfl⟩
  rw [hservice]
  exact hadmission

/-! ### All requests -/

/-- Every request after every run manages its clients, whatever fails in it but the closing of clients. -/
theorem clients_managed (repository : Repository) (service : Service)
    (provider : TokenProvider) (bindings : Bindings) (steps : List Step) (query : Query)
    (hcloses : service.failingCloses = []) :
    let start : ServingState := { service, provider, bindings }
    let before := (repository.run steps start).2
    let observed := observe (repository.findOne query) before
    ∃ built, Managed repository query before observed.2 (repository.history steps start)
      observed.1.events built := by
  intro start before observed
  obtain ⟨roster, haccount, hcloses, hpast⟩ :=
    closedForGood_history repository provider bindings steps hcloses
  obtain ⟨outcome, events, built, after, hrequested, hruns⟩ :=
    exists_requested repository query before
  have hobserved : observed = ({ outcome, events }, { after with trace := events }) :=
    hruns.observe
  have hmanaged := hrequested.managed haccount hcloses hpast
  rw [hobserved]
  exact ⟨built, { hmanaged with }⟩

/-- A service that refuses its third reply, in a run with one token throughout. The last of its requests has a client to close although its second segment fails. -/
theorem clients_managed_refused :
    let credentials : SessionCredentials := ⟨"AKIAONE", "s1", "t1"⟩
    let repository : Repository := { properties := {} }
    let start : ServingState :=
      { service := { script := [.fromStore, .fromStore, .failure .interrupted] }
        provider := .fixed (some credentials.encode) }
    let steps : List Step := [.put "/a/p/x" "1", .findOne { application := "a", profiles := none }]
    let query : Query := { application := "a", profiles := some "p,q" }
    let before := (repository.run steps start).2
    let observed := observe (repository.findOne query) before
    start.service.failingCloses = [] ∧
      (∃ built, Managed repository query before observed.2 (repository.history steps start)
        observed.1.events built) ∧
      ∃ client ∈ Event.closings observed.1.events,
        client.session = (Source.token credentials).session none :=
  ⟨rfl, clients_managed _ _ _ _ _ _ rfl,
    exists_closed_of_fixed _ [] _ _ (by decide : splitProfiles (some "p,q") = ["p", "q"])
      (SessionCredentials.read_encode _) rfl rfl⟩

end Repository

end ParameterConfig
