import ParameterConfig.Proofs.Blank
import ParameterConfig.Proofs.Roster

/-!
# Isolation of credentials

Whom a request to the parameter service acts as is decided by the token of its segment alone. Clients are shared between requests and reused between the segments of one request, but none is used for a source other than its own: `segments_isolated` says so of every request after every run.
-/

namespace ParameterConfig

namespace Repository

open Serving

/-- The identity that goes with a token: that of the credentials in the token, unless it is missing or blank, then the profile of the properties, if one is named, and otherwise that of the surroundings. -/
inductive ActsAs (properties : Properties) : Option String → Identity → Prop
  | client {token : String} {credentials : SessionCredentials} (hsent : ¬ Blank token)
      (hdecoded : SessionCredentials.decode token = .ok credentials) :
      ActsAs properties (some token) (.keys credentials)
  | profile {token : Option String} {name : String} (hblank : ∀ sent ∈ token, Blank sent)
      (hprofile : properties.profile = some name) (hname : name ≠ "") :
      ActsAs properties token (.profile (some name))
  | ambient {token : Option String} (hblank : ∀ sent ∈ token, Blank sent)
      (hprofile : ∀ name ∈ properties.profile, name = "") :
      ActsAs properties token .ambient

/-- What keeps the credentials of a segment apart from all others. -/
structure Isolated (properties : Properties) (segment : Segment) : Prop where
  /-- All calls go through clients on the session that goes with the token. -/
  called : ∀ call ∈ Event.calls segment.events,
    ActsAs properties segment.before.token call.1.session.identity ∧
      call.1.session.region = properties.region
  /-- No other session is opened. -/
  opened : ∀ session ∈ Event.sessions segment.events,
    ActsAs properties segment.before.token session.identity ∧
      session.region = properties.region
  /-- Where a token was sent, the clients called are not among those shared. -/
  unshared : ∀ token ∈ segment.before.token, ¬ Blank token →
    ∀ call ∈ Event.calls segment.events,
      call.1 ∉ segment.before.shared.values ∧ call.1 ∉ segment.after.shared.values
  /-- Where the token cannot be decoded, no session is opened and no call is made. -/
  undecoded : ∀ token ∈ segment.before.token, ¬ Blank token → ∀ failure,
    SessionCredentials.decode token = .error failure →
      segment.outcome = .error failure ∧ Event.sessions segment.events = [] ∧
        Event.calls segment.events = []

variable {repository : Repository} {query : Query}

/-! ### Tokens and sources -/

theorem sentCredentials_of_blank {token : Option String} (hblank : ∀ sent ∈ token, Blank sent) :
    sentCredentials token = .ok none := by
  cases token with
  | none => rfl
  | some sent =>
    refine if_pos ?_
    rw [List.isEmpty_iff, Text.trim_eq_nil_iff]
    exact hblank sent rfl

theorem sentCredentials_of_sent {token : String} (hsent : ¬ Blank token) :
    sentCredentials (some token) = (SessionCredentials.decode token).map some := by
  refine if_neg ?_
  rw [List.isEmpty_iff, Text.trim_eq_nil_iff]
  exact hsent

theorem not_blank_of_read {token : String} {credentials : SessionCredentials}
    (hread : SessionCredentials.read token = .ok credentials) : ¬ Blank token := by
  intro hblank
  have hempty : SessionCredentials.read token = SessionCredentials.read "" := by
    unfold SessionCredentials.read
    rw [Text.trim_eq_nil_iff.mpr hblank]
    rfl
  have hrejected : SessionCredentials.read "" = .error .notCredentials := by decide +kernel
  rw [hempty, hrejected] at hread
  cases hread

theorem sentCredentials_of_read {token : String} {credentials : SessionCredentials}
    (hread : SessionCredentials.read token = .ok credentials) :
    sentCredentials (some token) = .ok (some credentials) := by
  rw [sentCredentials_of_sent (not_blank_of_read hread), SessionCredentials.decode, hread]
  rfl

theorem sourceFor_of_read {token : String} {credentials : SessionCredentials}
    (hread : SessionCredentials.read token = .ok credentials) :
    repository.sourceFor (some token) = .ok (.token credentials) := by
  rw [sourceFor, sentCredentials_of_read hread]
  rfl

theorem actsAs_localSource {token : Option String} (hblank : ∀ sent ∈ token, Blank sent) :
    ActsAs repository.properties token repository.localSource.identity := by
  unfold localSource
  cases hprofile : repository.properties.profile with
  | none => exact .ambient hblank (by simp [hprofile])
  | some name =>
    dsimp only
    by_cases hname : name.isEmpty = true
    · rw [if_pos hname]
      exact .ambient hblank (by simpa [hprofile] using hname)
    · rw [if_neg hname]
      exact .profile hblank hprofile (by simpa using hname)

theorem actsAs_of_sourceFor {token : Option String} {source : Source}
    (hsource : repository.sourceFor token = .ok source) :
    ActsAs repository.properties token source.identity := by
  unfold sourceFor at hsource
  by_cases hblank : ∀ sent ∈ token, Blank sent
  · rw [sentCredentials_of_blank hblank] at hsource
    obtain rfl := Except.ok.inj hsource
    exact actsAs_localSource hblank
  · obtain ⟨sent, rfl, hsent⟩ : ∃ sent, token = some sent ∧ ¬ Blank sent := by
      simpa [Option.mem_def] using hblank
    rw [sentCredentials_of_sent hsent] at hsource
    cases hdecode : SessionCredentials.decode sent with
    | error failure => simp [hdecode, Except.map] at hsource
    | ok credentials =>
      rw [hdecode] at hsource
      obtain rfl := Except.ok.inj hsource
      exact .client hsent hdecode

theorem sourceFor_of_undecoded {token : String} {failure : Failure} (hsent : ¬ Blank token)
    (hdecode : SessionCredentials.decode token = .error failure) :
    repository.sourceFor (some token) = .error failure := by
  unfold sourceFor
  rw [sentCredentials_of_sent hsent, hdecode]
  rfl

theorem ActsAs.keys_of_sent {properties : Properties} {token : String} {identity : Identity}
    (hacts : ActsAs properties (some token) identity) (hsent : ¬ Blank token) :
    ∃ credentials, identity = .keys credentials := by
  cases hacts with
  | client _ hdecoded => exact ⟨_, rfl⟩
  | profile hblank hprofile hname => exact absurd (hblank token rfl) hsent
  | ambient hblank hprofile => exact absurd (hblank token rfl) hsent

/-! ### Segments -/

/-- A segment keeps to itself when all its sessions and calls are those of its source, and its source works for a token whenever one was sent. -/
theorem isolated_of_source {segment : Segment} {source : Source}
    (hsource : repository.sourceFor segment.before.token = .ok source)
    (hsessions : ∀ session ∈ Event.sessions segment.events,
      session = source.session repository.properties.region)
    (hcalls : ∀ call ∈ Event.calls segment.events,
      call.1.session = source.session repository.properties.region)
    (hbefore : ∀ client ∈ segment.before.shared.values, client.forToken = false)
    (hafter : ∀ client ∈ segment.after.shared.values, client.forToken = false) :
    Isolated repository.properties segment where
  called := by
    intro call hcall
    rw [hcalls call hcall]
    exact ⟨actsAs_of_sourceFor hsource, rfl⟩
  opened := by
    intro session hsession
    rw [hsessions session hsession]
    exact ⟨actsAs_of_sourceFor hsource, rfl⟩
  unshared := by
    intro token htoken hsent call hcall
    have hacts := actsAs_of_sourceFor hsource
    rw [Option.mem_def.mp htoken] at hacts
    obtain ⟨credentials, hidentity⟩ := hacts.keys_of_sent hsent
    have hforToken : call.1.forToken = true := by
      simp only [Client.forToken, hcalls call hcall, Source.session, hidentity]
    constructor
    · intro hshared
      exact absurd (hbefore _ hshared) (by rw [hforToken]; decide)
    · intro hshared
      exact absurd (hafter _ hshared) (by rw [hforToken]; decide)
  undecoded := by
    intro token htoken hsent failure hdecode
    rw [Option.mem_def.mp htoken, sourceFor_of_undecoded hsent hdecode] at hsource
    cases hsource

theorem isolated_of_no_source {segment : Segment} {failure : Failure}
    (hsource : repository.sourceFor segment.before.token = .error failure)
    (houtcome : segment.outcome = .error failure) (hevents : segment.events = []) :
    Isolated repository.properties segment where
  called := by
    rw [hevents]
    exact fun call hcall => nomatch hcall
  opened := by
    rw [hevents]
    exact fun session hsession => nomatch hsession
  unshared := by
    rw [hevents]
    exact fun token _ _ call hcall => nomatch hcall
  undecoded := by
    intro token htoken hsent other hdecode
    rw [Option.mem_def.mp htoken, sourceFor_of_undecoded hsent hdecode] at hsource
    obtain rfl := Except.error.inj hsource
    rw [hevents]
    exact ⟨houtcome, rfl, rfl⟩

theorem Served.isolated {segment : Segment} {built : List Client} {middle : ServingState}
    {first : Nat} {past : List Event} {roster : List Client}
    (hserved : Served repository query segment.profile segment.before segment.outcome
      segment.events built middle)
    (hmiddle : segment.after.shared = middle.shared)
    (haccount : Accounted repository.properties.region first past roster segment.before) :
    Isolated repository.properties segment := by
  obtain ⟨profile, before, outcome, events, after⟩ := segment
  dsimp only at hserved hmiddle haccount
  have hbefore : ∀ client ∈ before.shared.values, client.forToken = false :=
    fun client hclient => (haccount.shared client hclient).2
  have hafter : ∀ client ∈ after.shared.values, client.forToken = false := by
    rw [hmiddle]
    exact fun client hclient => ((haccount.served hserved).shared client hclient).2
  cases hserved with
  | unresolved hsource => exact isolated_of_no_source hsource rfl rfl
  | unconnected hsource hacquired =>
    refine isolated_of_source hsource ?_ ?_ hbefore hafter
    · simpa using hacquired.session_eq
    · simp [hacquired.calls_eq_nil]
  | @read source client acquiring _ middle path reading hsource hacquired hpath hreading =>
    have hsession : client.session = source.session repository.properties.region := by
      have htaken := haccount.tokenTaken
      obtain ⟨hheld, hclient⟩ := htaken.acquired hacquired (sourceFor_resolved hsource)
      exact (hheld.held _ (hclient client rfl)).2.2
    refine isolated_of_source hsource ?_ ?_ hbefore hafter
    · simpa using hacquired.session_eq
    · intro call hcall
      simp only [Event.calls_append, Event.calls_logged, Event.calls_called,
        hacquired.calls_eq_nil, List.nil_append, List.append_nil] at hcall
      obtain ⟨request, _, rfl⟩ := List.mem_map.mp hcall
      exact hsession

/-! ### Requests after any run -/

/-- Every session that a request opens and every call that it makes belongs to one of its segments, and every segment keeps to the credentials that go with its token. Calls stand on sessions opened before, and a client's number tells which client it is, over the run and the request together. -/
theorem segments_isolated (repository : Repository) (service : Service)
    (provider : TokenProvider) (bindings : Bindings) (steps : List Step) (query : Query) :
    let start : ServingState := { service, provider, bindings }
    let before := (repository.run steps start).2
    let events := (observe (repository.findOne query) before).1.events
    let past := repository.history steps start
    (∃ ending, events = (repository.segments query before).flatMap Segment.events ++ ending ∧
      Event.sessions ending = [] ∧ Event.calls ending = []) ∧
    ((repository.segments query before).map Segment.profile).IsPrefix
      (splitProfiles query.profiles) ∧
    (∀ segment ∈ repository.segments query before, Isolated repository.properties segment) ∧
    Event.OpenedBefore (past ++ events) ∧
    ∀ call ∈ Event.calls (past ++ events), ∀ other ∈ Event.calls (past ++ events),
      call.1.number = other.1.number → call.1 = other.1 := by
  intro start before events past
  obtain ⟨roster, haccount⟩ := Accounted.run repository service provider bindings steps
  obtain ⟨outcome, added, built, after, hrequested, hruns⟩ :=
    exists_requested repository query before
  have hevents : events = added := by
    have hobserved := hruns.observe
    simp only [events, hobserved]
  have hafter := haccount.requested hrequested
  rw [hevents]
  refine ⟨?_, segmentsFrom_profiles _ _, ?_, hafter.order, ?_⟩
  · cases hrequested with
    | intro records held hall hheld hinitial hcloses =>
      exact ⟨_, rfl, by simp, by simp⟩
  · cases hrequested with
    | intro records held hall hheld hinitial hcloses =>
      intro segment hsegment
      obtain ⟨earlier, listed, more, middle, hserved, hsame, hlisted⟩ :=
        haccount.request_start.segment hall segment hsegment
      exact hserved.isolated (by rw [hsame]) hlisted
  · intro call hcall other hother
    exact hafter.eq_of_number_eq (hafter.called call hcall) (hafter.called other hother)

end Repository
end ParameterConfig
