import Mathlib.Data.List.Nodup
import ParameterConfig.Proofs.OrderedMap
import ParameterConfig.Proofs.Pages
import ParameterConfig.Proofs.Request

/-!
# The roster of clients

All clients that have been built so far can be listed in the order of their numbers. `Accounted` ties such a roster to the events so far and to the clients that are shared or held: each client of the roster stands on a session that was opened, a shared client stands on the session of the sources it is shared for, a held one on the session of its source, and whoever is called or closed is on the roster. Whatever a request can come to keeps this, with the clients it builds appended to the roster.
-/

namespace ParameterConfig

/-! ### The sources of a repository -/

namespace Source

/-- The sources that a repository resolves to. -/
inductive Resolved : Source → Prop
  | token (credentials : SessionCredentials) : Resolved (.token credentials)
  | profile (name : String) : Resolved (.profile name)
  | ambient : Resolved .ambient

variable {source other : Source} {region : Option String}

theorem Resolved.eq_of_session_eq (hsource : source.Resolved) (hother : other.Resolved)
    (hsession : source.session region = other.session region) : source = other := by
  have hidentity : source.identity = other.identity := congrArg Session.identity hsession
  cases hsource <;> cases hother <;> cases hidentity <;> rfl

/-- Clients are shared by all that the session of their source depends on. -/
theorem session_eq_of_sharedKey (hkind : source.kind ≠ .token)
    (hkey : Clients.sharedKey source = Clients.sharedKey other) :
    source.session region = other.session region := by
  obtain ⟨hkinds, hnames⟩ := Prod.mk.inj hkey
  have hidentity : source.identity = other.identity := by
    unfold identity
    rw [← hkinds, ← hnames]
    cases hsource : source.kind with
    | token => exact absurd hsource hkind
    | profile => rfl
    | ambient => rfl
  simp only [session, hidentity]

end Source

/-- A client for a token works with keys of its own. -/
def Client.forToken (client : Client) : Bool :=
  match client.session.identity with
  | .keys _ => true
  | _ => false

theorem Source.Resolved.forToken_iff {source : Source} {client : Client} {region : Option String}
    (hsource : source.Resolved) (hsession : client.session = source.session region) :
    client.forToken = true ↔ source.kind = .token := by
  unfold Client.forToken
  rw [hsession]
  cases hsource <;> simp [Source.session, Source.identity, Source.token, Source.profile,
    Source.ambient]

theorem Repository.sourceFor_resolved {repository : Repository} {token : Option String}
    {source : Source} (hsource : repository.sourceFor token = .ok source) : source.Resolved := by
  unfold sourceFor at hsource
  cases hsent : sentCredentials token with
  | error failure => simp [hsent, Except.map] at hsource
  | ok sent =>
    simp only [hsent, Except.map, Except.ok.injEq] at hsource
    subst hsource
    cases sent with
    | some credentials => exact .token credentials
    | none =>
      unfold localSource
      cases repository.properties.profile with
      | none => exact .ambient
      | some name =>
        dsimp only
        split
        · exact .ambient
        · exact .profile name

/-! ### Calls on opened sessions -/

namespace Event

/-- Whoever is called stands on a session that was opened before. -/
def OpenedBefore (events : List Event) : Prop :=
  ∀ front client request back, events = front ++ .called client request :: back →
    .opened client.session ∈ front

theorem OpenedBefore.nil : OpenedBefore [] := by
  intro front client request back heq
  simp at heq

/-- More events may follow when whoever they call stands on a session that was opened by now. -/
theorem OpenedBefore.append {past events : List Event} (hpast : OpenedBefore past)
    (hevents : ∀ call ∈ calls events, .opened call.1.session ∈ past) :
    OpenedBefore (past ++ events) := by
  intro front client request back heq
  rcases List.append_eq_append_iff.mp heq with ⟨between, rfl, hevent⟩ | ⟨between, hpasteq, hevent⟩
  · have hcall : (client, request) ∈ calls events := by
      rw [hevent, calls_append]
      exact List.mem_append_right _ (by simp [calls, call?])
    exact List.mem_append_left _ (hevents _ hcall)
  · cases between with
    | nil =>
      have hcall : (client, request) ∈ calls events := by
        rw [List.nil_append] at hevent
        rw [← hevent]
        simp [calls, call?]
      rw [List.append_nil] at hpasteq
      rw [← hpasteq]
      exact hevents _ hcall
    | cons event rest =>
      rw [List.cons_append, List.cons.injEq] at hevent
      obtain ⟨rfl, _⟩ := hevent
      exact hpast front client request rest hpasteq

end Event

/-! ### The account -/

/-- The roster lists the clients built after the first so many, and accounts for all that the events and the state show of clients. -/
structure Accounted (region : Option String) (first : Nat) (past : List Event)
    (roster : List Client) (state : ServingState) : Prop where
  numbers : roster.map Client.number = List.range' (first + 1) roster.length
  built : state.service.built = first + roster.length
  opened : ∀ client ∈ roster, .opened client.session ∈ past
  shared : ∀ client ∈ state.shared.values, client ∈ roster ∧ client.forToken = false
  sharedSession : ∀ source client, source.kind ≠ .token →
    state.shared.find? (Clients.sharedKey source) = some client →
      client.session = source.session region
  kept : ∀ client ∈ roster, client.forToken = false → ∃ source : Source, source.Resolved ∧
    client.session = source.session region ∧
      state.shared.find? (Clients.sharedKey source) = some client
  held : ∀ entry ∈ state.held.entries, entry.1.Resolved ∧ entry.2 ∈ roster ∧
    entry.2.session = entry.1.session region
  called : ∀ call ∈ Event.calls past, call.1 ∈ roster
  order : Event.OpenedBefore past
  closed : ∀ client ∈ Event.closings past, client ∈ roster ∧ client.forToken = true

namespace Accounted

variable {region : Option String} {first : Nat} {past events : List Event} {roster : List Client}
  {state after : ServingState}

theorem eq_of_number_eq (haccount : Accounted region first past roster state)
    {client other : Client} (hclient : client ∈ roster) (hother : other ∈ roster)
    (hnumber : client.number = other.number) : client = other := by
  have hnodup : (roster.map Client.number).Nodup := haccount.numbers ▸ List.nodup_range'
  exact List.inj_on_of_nodup_map hnodup hclient hother hnumber

theorem number_le (haccount : Accounted region first past roster state) {client : Client}
    (hclient : client ∈ roster) : client.number ≤ state.service.built := by
  have hnumber : client.number ∈ roster.map Client.number := List.mem_map_of_mem hclient
  rw [haccount.numbers, List.mem_range'_1] at hnumber
  rw [haccount.built]
  omega

theorem numbers_built {built : List Client} {later : List Event}
    (haccount : Accounted region first past roster state)
    (hafter : Accounted region first later (roster ++ built) after) :
    built.map Client.number = List.range' (state.service.built + 1) built.length := by
  have hnumbers := hafter.numbers
  rw [List.map_append, haccount.numbers, List.length_append, List.range'_append_1.symm,
    List.append_cancel_left_eq] at hnumbers
  rw [hnumbers, haccount.built]
  congr 1
  omega

theorem lt_number_of_built {built : List Client} {later : List Event} {client : Client}
    (haccount : Accounted region first past roster state)
    (hafter : Accounted region first later (roster ++ built) after) (hclient : client ∈ built) :
    state.service.built < client.number := by
  have hnumber : client.number ∈ built.map Client.number := List.mem_map_of_mem hclient
  rw [haccount.numbers_built hafter, List.mem_range'_1] at hnumber
  omega

theorem listed_of_called (haccount : Accounted region first (past ++ events) roster state)
    {call : Client × Request} (hcall : call ∈ Event.calls events) : call.1 ∈ roster := by
  apply haccount.called
  rw [Event.calls_append]
  exact List.mem_append_right _ hcall

theorem built_of_called {built : List Client} {call : Client × Request}
    (haccount : Accounted region first past roster state)
    (hafter : Accounted region first (past ++ events) (roster ++ built) after)
    (hcall : call ∈ Event.calls events) (hnumber : state.service.built < call.1.number) :
    call.1 ∈ built := by
  rcases List.mem_append.mp (hafter.listed_of_called hcall) with hroster | hbuilt
  · have hearly := haccount.number_le hroster
    omega
  · exact hbuilt

theorem of_same_clients (haccount : Accounted region first past roster state)
    (hbuilt : after.service.built = state.service.built) (hshared : after.shared = state.shared)
    (hheld : ∀ entry ∈ after.held.entries, entry ∈ state.held.entries) :
    Accounted region first past roster after where
  numbers := haccount.numbers
  built := hbuilt.trans haccount.built
  opened := haccount.opened
  shared := by rw [hshared]; exact haccount.shared
  sharedSession := by rw [hshared]; exact haccount.sharedSession
  kept := by rw [hshared]; exact haccount.kept
  held := fun entry hentry => haccount.held entry (hheld entry hentry)
  called := haccount.called
  order := haccount.order
  closed := haccount.closed

theorem retraced (haccount : Accounted region first past roster state) (trace : List Event) :
    Accounted region first past roster { state with trace } :=
  haccount.of_same_clients rfl rfl fun _ hentry => hentry

theorem append (haccount : Accounted region first past roster state)
    (hcalled : ∀ call ∈ Event.calls events, call.1 ∈ roster)
    (hclosed : ∀ client ∈ Event.closings events, client ∈ roster ∧ client.forToken = true) :
    Accounted region first (past ++ events) roster state where
  numbers := haccount.numbers
  built := haccount.built
  opened := fun client hclient => List.mem_append_left _ (haccount.opened client hclient)
  shared := haccount.shared
  sharedSession := haccount.sharedSession
  kept := haccount.kept
  held := haccount.held
  called := by
    intro call hcall
    rw [Event.calls_append] at hcall
    exact (List.mem_append.mp hcall).elim (haccount.called call) (hcalled call)
  order := haccount.order.append fun call hcall => haccount.opened call.1 (hcalled call hcall)
  closed := by
    intro client hclient
    rw [Event.closings_append] at hclient
    exact (List.mem_append.mp hclient).elim (haccount.closed client) (hclosed client)

/-! ### Coming by a client -/

variable {source : Source} {client : Client}

theorem hold (haccount : Accounted region first past roster state) (hsource : source.Resolved)
    (hclient : client ∈ roster) (hsession : client.session = source.session region)
    (hnew : state.held.find? source = none) :
    Accounted region first past roster
      { state with held := state.held.insert source client } where
  numbers := haccount.numbers
  built := haccount.built
  opened := haccount.opened
  shared := haccount.shared
  sharedSession := haccount.sharedSession
  kept := haccount.kept
  held := by
    intro entry hentry
    rcases (OrderedMap.mem_entries_insert_of_new hnew).mp hentry with hold | rfl
    · exact haccount.held entry hold
    · exact ⟨hsource, hclient, hsession⟩
  called := haccount.called
  order := haccount.order
  closed := haccount.closed

/-- A client that has just been built is shared unless it works for a token. -/
theorem shared_of_built (haccount : Accounted region first past roster state)
    (hsource : source.Resolved) (hsession : client.session = source.session region)
    (hnew : source.kind ≠ .token → state.shared.find? (Clients.sharedKey source) = none) :
    (∀ other ∈ (Clients.sharedWith source client state.shared).values,
      other ∈ roster ++ [client] ∧ other.forToken = false) ∧
    (∀ other found, other.kind ≠ .token →
      (Clients.sharedWith source client state.shared).find? (Clients.sharedKey other) =
        some found → found.session = other.session region) ∧
    ∀ other ∈ roster ++ [client], other.forToken = false → ∃ own : Source, own.Resolved ∧
      other.session = own.session region ∧
        (Clients.sharedWith source client state.shared).find? (Clients.sharedKey own) =
          some other := by
  have htoken := hsource.forToken_iff hsession
  unfold Clients.sharedWith
  by_cases hkind : source.kind = .token
  · rw [if_pos hkind]
    refine ⟨fun other hother => ?_, haccount.sharedSession, fun other hother hplain => ?_⟩
    · obtain ⟨hroster, hplain⟩ := haccount.shared other hother
      exact ⟨List.mem_append_left _ hroster, hplain⟩
    · rcases List.mem_append.mp hother with hroster | hlast
      · exact haccount.kept other hroster hplain
      · rw [List.mem_singleton] at hlast
        subst hlast
        rw [htoken.mpr hkind] at hplain
        cases hplain
  · rw [if_neg hkind]
    have hplain : client.forToken = false := by
      rw [← Bool.not_eq_true, htoken]
      exact hkind
    refine ⟨fun other hother => ?_, fun other found hother hfound => ?_,
      fun other hother hother' => ?_⟩
    · rcases (OrderedMap.mem_values_insert_of_new (hnew hkind)).mp hother with hshared | rfl
      · obtain ⟨hroster, hothers⟩ := haccount.shared other hshared
        exact ⟨List.mem_append_left _ hroster, hothers⟩
      · exact ⟨List.mem_append_right _ List.mem_cons_self, hplain⟩
    · by_cases hkey : Clients.sharedKey source = Clients.sharedKey other
      · rw [← hkey, OrderedMap.find?_insert_self, Option.some.injEq] at hfound
        rw [← hfound, hsession, Source.session_eq_of_sharedKey hkind hkey]
      · rw [OrderedMap.find?_insert_of_ne _ _ (Ne.symm hkey)] at hfound
        exact haccount.sharedSession other found hother hfound
    · rcases List.mem_append.mp hother with hroster | hlast
      · obtain ⟨own, hown, hownSession, hfound⟩ := haccount.kept other hroster hother'
        exact ⟨own, hown, hownSession, OrderedMap.find?_insert_of_new (hnew hkind) hfound⟩
      · rw [List.mem_singleton] at hlast
        subst hlast
        exact ⟨source, hsource, hsession, OrderedMap.find?_insert_self _ _ _⟩

theorem build {service : Service} (haccount : Accounted region first past roster state)
    (hsource : source.Resolved)
    (hnew : source.kind ≠ .token → state.shared.find? (Clients.sharedKey source) = none)
    (hconnect : state.service.connect (source.session region) = .ok (client, service)) :
    Accounted region first (past ++ [.opened (source.session region)]) (roster ++ [client])
      { state with service, shared := Clients.sharedWith source client state.shared } := by
  obtain ⟨hclient, hservice⟩ := Service.connect_ok hconnect
  have hsession : client.session = source.session region := by rw [hclient]
  have hnumber : client.number = first + roster.length + 1 := by rw [hclient, haccount.built]
  obtain ⟨hshared, hsharedSession, hkept⟩ := haccount.shared_of_built hsource hsession hnew
  have hlogged : Accounted region first (past ++ [.opened (source.session region)]) roster state :=
    haccount.append (by simp [Event.calls, Event.call?]) (by simp [Event.closings, Event.closing?])
  refine
    { numbers := ?_, built := ?_, opened := ?_, shared := hshared
      sharedSession := hsharedSession, kept := hkept, held := ?_, called := ?_
      order := hlogged.order, closed := ?_ }
  · rw [List.map_append, haccount.numbers, List.length_append, List.map_singleton, hnumber,
      List.length_singleton, List.range'_concat]
    congr 2
    omega
  · rw [hservice, List.length_append, List.length_singleton, haccount.built, Nat.add_assoc]
  · intro other hother
    rcases List.mem_append.mp hother with hroster | hlast
    · exact hlogged.opened other hroster
    · rw [List.mem_singleton] at hlast
      subst hlast
      rw [hsession]
      exact List.mem_append_right _ List.mem_cons_self
  · intro entry hentry
    obtain ⟨hresolved, hroster, hentrySession⟩ := haccount.held entry hentry
    exact ⟨hresolved, List.mem_append_left _ hroster, hentrySession⟩
  · intro call hcall
    exact List.mem_append_left _ (hlogged.called call hcall)
  · intro other hother
    obtain ⟨hroster, htoken⟩ := hlogged.closed other hother
    exact ⟨List.mem_append_left _ hroster, htoken⟩

theorem provided {outcome : Except Failure Client} {built : List Client}
    (hprovided : Clients.Provided region source state outcome events built after)
    (hsource : source.Resolved) (haccount : Accounted region first past roster state) :
    Accounted region first (past ++ events) (roster ++ built) after ∧
      after.held = state.held ∧
      ∀ client, outcome = .ok client →
        client ∈ roster ++ built ∧ client.session = source.session region := by
  cases hprovided with
  | @shared client hkind hshared =>
    rw [List.append_nil, List.append_nil]
    refine ⟨haccount, rfl, fun other hother => ?_⟩
    obtain rfl := Except.ok.inj hother
    have hvalue : client ∈ state.shared.values :=
      List.mem_map.mpr ⟨_, OrderedMap.mem_entries_of_find? hshared, rfl⟩
    exact ⟨(haccount.shared client hvalue).1, haccount.sharedSession source client hkind hshared⟩
  | built hnew hconnect =>
    refine ⟨haccount.build hsource hnew hconnect, rfl, fun other hother => ?_⟩
    obtain rfl := Except.ok.inj hother
    obtain ⟨hclient, _⟩ := Service.connect_ok hconnect
    exact ⟨List.mem_append_right _ List.mem_cons_self, by rw [hclient]⟩
  | unbuilt hnew hconnect =>
    rw [List.append_nil]
    refine ⟨haccount.append ?_ ?_, rfl, fun other hother => nomatch hother⟩
    · simp [Event.calls, Event.call?]
    · simp [Event.closings, Event.closing?]

theorem acquired {outcome : Except Failure Client} {built : List Client}
    (hacquired : Clients.Acquired region source state outcome events built after)
    (hsource : source.Resolved) (haccount : Accounted region first past roster state) :
    Accounted region first (past ++ events) (roster ++ built) after ∧
      ∀ client, outcome = .ok client → (source, client) ∈ after.held.entries := by
  have hentry : ∀ client, outcome = .ok client → (source, client) ∈ after.held.entries := by
    rintro client rfl
    exact hacquired.mem_of_ok
  refine ⟨?_, hentry⟩
  cases hacquired with
  | held hheld => rwa [List.append_nil, List.append_nil]
  | @provided client _ _ middle hheld hprovided =>
    obtain ⟨hafter, hsame, hclient⟩ := haccount.provided hprovided hsource
    obtain ⟨hroster, hsession⟩ := hclient client rfl
    rw [← hsame] at hheld
    exact hafter.hold hsource hroster hsession hheld
  | refused hheld hprovided => exact (haccount.provided hprovided hsource).1

/-! ### Requests and runs -/

variable {repository : Repository} {query : Query}

theorem logged (haccount : Accounted region first past roster state) (records : List Log.Record) :
    Accounted region first (past ++ records.map .logged) roster state :=
  haccount.append (by simp) (by simp)

theorem tokenTaken (haccount : Accounted region first past roster state) :
    Accounted region first past roster state.tokenTaken :=
  haccount.of_same_clients rfl rfl fun _ hentry => hentry

theorem served {profile : String} {outcome : Except Failure PropertySource}
    {built : List Client}
    (hserved : Repository.Served repository query profile state outcome events built after)
    (haccount : Accounted repository.properties.region first past roster state) :
    Accounted repository.properties.region first (past ++ events) (roster ++ built) after := by
  cases hserved with
  | unresolved hsource =>
    rw [List.append_nil, List.append_nil]
    exact haccount.tokenTaken
  | unconnected hsource hacquired =>
    rw [← List.append_assoc]
    have htaken := haccount.tokenTaken.logged (Repository.tokenRecords state.token)
    exact (htaken.acquired hacquired (Repository.sourceFor_resolved hsource)).1
  | @read source client acquiring _ middle path reading hsource hacquired hpath hreading =>
    have htaken := haccount.tokenTaken.logged (Repository.tokenRecords state.token)
    obtain ⟨hmiddle, hclient⟩ := htaken.acquired hacquired (Repository.sourceFor_resolved hsource)
    have hroster : client ∈ roster ++ built := (hmiddle.held _ (hclient client rfl)).2.1
    have hcalled : Accounted repository.properties.region first
        (past ++ (Repository.tokenRecords state.token).map .logged ++ acquiring ++
          reading.requests.map (.called client)) (roster ++ built) middle := by
      refine hmiddle.append ?_ (by simp)
      intro call hcall
      rw [Event.calls_called] at hcall
      obtain ⟨request, _, rfl⟩ := List.mem_map.mp hcall
      exact hroster
    have hrecords := hcalled.logged (Repository.readingRecords query path source reading)
    simp only [List.append_assoc] at hrecords
    refine hrecords.of_same_clients ?_ rfl fun _ hentry => hentry
    obtain ⟨script, hservice⟩ := Service.readPages_service middle.service path none
    dsimp only
    rw [hreading, hservice]

theorem servedAll {profiles : List String} {all : List Repository.Segment}
    {outcome : Except Failure (List PropertySource)} {built : List Client}
    (hall : Repository.ServedAll repository query profiles state all built outcome after)
    (haccount : Accounted repository.properties.region first past roster state) :
    Accounted repository.properties.region first
      (past ++ all.flatMap Repository.Segment.events) (roster ++ built) after := by
  induction hall generalizing past roster with
  | nil => simpa using haccount
  | stop hserved =>
    rw [List.flatMap_singleton]
    exact (haccount.served hserved).retraced _
  | next hserved hrest ih =>
    rw [List.flatMap_cons, ← List.append_assoc, ← List.append_assoc]
    exact ih ((haccount.served hserved).retraced _)

/-- Each segment of a request is served from a state in which all clients are accounted for. -/
theorem segment {profiles : List String} {all : List Repository.Segment}
    {outcome : Except Failure (List PropertySource)} {built : List Client}
    (hall : Repository.ServedAll repository query profiles state all built outcome after)
    (haccount : Accounted repository.properties.region first past roster state) :
    ∀ segment ∈ all, ∃ earlier listed added middle,
      Repository.Served repository query segment.profile segment.before segment.outcome
        segment.events added middle ∧
      segment.after = { middle with trace := segment.events } ∧
      Accounted repository.properties.region first earlier listed segment.before := by
  induction hall generalizing past roster with
  | nil => exact fun segment hsegment => nomatch hsegment
  | stop hserved =>
    intro segment hsegment
    obtain rfl := List.mem_singleton.mp hsegment
    exact ⟨past, roster, _, _, hserved, rfl, haccount⟩
  | next hserved hrest ih =>
    intro segment hsegment
    rcases List.mem_cons.mp hsegment with rfl | hlater
    · exact ⟨past, roster, _, _, hserved, rfl, haccount⟩
    · exact ih ((haccount.served hserved).retraced _) segment hlater

theorem request_start (haccount : Accounted region first past roster state) :
    Accounted region first past roster { state with held := ∅ } :=
  haccount.of_same_clients rfl rfl fun _ hentry => nomatch hentry

theorem tokenClients (haccount : Accounted region first past roster state) :
    ∀ client ∈ Clients.tokenClients state.held.entries,
      client ∈ roster ∧ client.forToken = true := by
  intro client hclient
  obtain ⟨entry, hentry, rfl⟩ := List.mem_map.mp hclient
  obtain ⟨hmem, hkind⟩ := List.mem_filter.mp hentry
  obtain ⟨hresolved, hroster, hsession⟩ := haccount.held entry hmem
  exact ⟨hroster, (hresolved.forToken_iff hsession).mpr (by simpa using hkind)⟩

theorem requested {outcome : Except Failure Environment} {built : List Client}
    (hrequested : Repository.Requested repository query state outcome events built after)
    (haccount : Accounted repository.properties.region first past roster state) :
    Accounted repository.properties.region first (past ++ events) (roster ++ built) after := by
  cases hrequested with
  | @intro _ middle _ closed records held hall hheld hinitial hcloses =>
    have hmiddle := haccount.request_start.servedAll hall
    have hclosed : Accounted repository.properties.region first
        (past ++ (repository.segments query state).flatMap Repository.Segment.events ++
          closed.map .closed) (roster ++ built) middle := by
      refine hmiddle.append (by simp) ?_
      intro client hclient
      rw [Event.closings_closed] at hclient
      exact hmiddle.tokenClients client (hinitial.mem hclient)
    have hrecords := hclosed.logged records
    simp only [List.append_assoc] at hrecords
    exact hrecords.of_same_clients rfl rfl hheld

theorem start (service : Service) (provider : TokenProvider) (bindings : Bindings) :
    Accounted region service.built [] [] { service, provider, bindings } where
  numbers := rfl
  built := rfl
  opened := fun _ hclient => nomatch hclient
  shared := fun _ hclient => nomatch hclient
  sharedSession := fun _ _ _ hfound => nomatch hfound
  kept := fun _ hclient => nomatch hclient
  held := fun _ hentry => nomatch hentry
  called := fun _ hcall => nomatch hcall
  order := Event.OpenedBefore.nil
  closed := fun _ hclient => nomatch hclient

/-- After every run all clients built so far are accounted for. -/
theorem run (repository : Repository) (service : Service) (provider : TokenProvider)
    (bindings : Bindings) (steps : List Repository.Step) :
    ∃ roster, Accounted repository.properties.region service.built
      (repository.history steps { service, provider, bindings }) roster
      (repository.run steps { service, provider, bindings }).2 := by
  refine Repository.run_induction
    (fun past state => ∃ roster,
      Accounted repository.properties.region service.built past roster state)
    (fun past state trace hstate => ?_) (fun past state store script bindings hstate => ?_)
    (fun past query state outcome events built after hrequested hstate => ?_)
    ⟨[], .start service provider bindings⟩ steps
  · obtain ⟨roster, haccount⟩ := hstate
    exact ⟨roster, haccount.retraced trace⟩
  · obtain ⟨roster, haccount⟩ := hstate
    exact ⟨roster, haccount.of_same_clients rfl rfl fun _ hentry => hentry⟩
  · obtain ⟨roster, haccount⟩ := hstate
    exact ⟨roster ++ built, haccount.requested hrequested⟩

end Accounted
end ParameterConfig
