import ParameterConfig.Proofs.Reporting

/-!
# Segments one after the other

Every segment that is started takes one token, whether its client is built for it or used again, and the first segment that fails is the last one started. So the tokens that a provider hands out go to the segments in the order in which these are started, across all requests of a run: `Taken` is the invariant, which a segment, a request and a run extend by what they start. What decides a request is told by `Decided`, and `segments_in_order` says both of every run.
-/

namespace ParameterConfig

open Serving

/-! ### Tokens by their number -/

namespace TokenProvider

/-- The token that is handed out once there have been so many before it. A sequence that is used up hands out none. -/
def token (provider : TokenProvider) (before : Nat) (bindings : Bindings) : Option String :=
  match provider with
  | .fixed token => token
  | .header name => bindings.value? name
  | .sequence tokens => (tokens[before]?).join

def skip (provider : TokenProvider) (count : Nat) : TokenProvider :=
  match provider with
  | .sequence tokens => .sequence (tokens.drop count)
  | other => other

theorem skip_zero (provider : TokenProvider) : provider.skip 0 = provider := by
  cases provider <;> rfl

theorem skip_skip (provider : TokenProvider) (first second : Nat) :
    (provider.skip first).skip second = provider.skip (first + second) := by
  cases provider with
  | fixed token => rfl
  | header name => rfl
  | sequence tokens => simp [skip, List.drop_drop]

theorem next_skip (provider : TokenProvider) (before : Nat) (bindings : Bindings) :
    (provider.skip before).next bindings =
      (provider.token before bindings, provider.skip (before + 1)) := by
  cases provider with
  | fixed token => rfl
  | header name => rfl
  | sequence tokens =>
    cases hleft : tokens.drop before with
    | nil =>
      have hover : tokens.length ≤ before := List.drop_eq_nil_iff.mp hleft
      simp [skip, token, next, hleft, List.getElem?_eq_none hover,
        List.drop_eq_nil_of_le (Nat.le_succ_of_le hover)]
    | cons first rest =>
      have hfirst : tokens[before]? = some first := by
        rw [← List.head?_drop, hleft]
        rfl
      have hrest : tokens.drop (before + 1) = rest := by
        rw [← List.tail_drop, hleft]
        rfl
      simp [skip, token, next, hleft, hfirst, hrest]

theorem next_eq_skip (provider : TokenProvider) (bindings : Bindings) :
    (provider.next bindings).2 = provider.skip 1 := by
  have hnext := provider.next_skip 0 bindings
  rw [skip_zero] at hnext
  exact congrArg Prod.snd hnext

end TokenProvider

theorem Fetch.eq_ok_of_reported {path : String} {outcome : Except Failure (List Parameter)}
    {parameters : List Parameter} (hreported : reported path outcome = .ok parameters) :
    outcome = .ok parameters := by
  cases outcome with
  | ok other => exact hreported
  | error failure => cases failure <;> cases hreported

namespace Repository

variable {repository : Repository} {query : Query}

/-! ### One token for each segment -/

/-- These segments have taken one token each, in order, from a provider that had handed out so many before. -/
def Taken (provider : TokenProvider) (before : Nat) (segments : List Segment) : Prop :=
  ∀ place segment, segments[place]? = some segment →
    segment.before.provider = provider.skip (before + place) ∧
      segment.after.provider = provider.skip (before + place + 1)

namespace Taken

variable {provider : TokenProvider} {before : Nat} {segments later : List Segment}
  {segment : Segment}

theorem nil : Taken provider before [] :=
  fun _ _ hsegment => nomatch hsegment

theorem append (hfirst : Taken provider before segments)
    (hlater : Taken provider (before + segments.length) later) :
    Taken provider before (segments ++ later) := by
  intro place segment hsegment
  by_cases hplace : place < segments.length
  · rw [List.getElem?_append_left hplace] at hsegment
    exact hfirst place segment hsegment
  · rw [List.getElem?_append_right (by omega)] at hsegment
    have htaken := hlater _ segment hsegment
    rwa [show before + segments.length + (place - segments.length) = before + place by omega]
      at htaken

theorem singleton (hbefore : segment.before.provider = provider.skip before)
    (hafter : segment.after.provider = provider.skip (before + 1)) :
    Taken provider before [segment] := by
  intro place other hother
  obtain ⟨rfl, rfl⟩ : place = 0 ∧ other = segment := by
    cases place with
    | zero => exact ⟨rfl, (Option.some.inj hother).symm⟩
    | succ place => exact nomatch hother
  exact ⟨hbefore, hafter⟩

/-- The segment in some place is served with the token of that place. -/
theorem token (htaken : Taken provider before segments) {place : Nat}
    (hsegment : segments[place]? = some segment) :
    segment.before.token = provider.token (before + place) segment.before.bindings := by
  unfold ServingState.token
  rw [(htaken place segment hsegment).1, TokenProvider.next_skip]

end Taken

section

variable {state after : ServingState} {built : List Client} {provider : TokenProvider}
  {before : Nat}

theorem Served.provider_eq {profile : String} {outcome : Except Failure PropertySource}
    {events : List Event}
    (hserved : Served repository query profile state outcome events built after)
    (hprovider : state.provider = provider.skip before) :
    after.provider = provider.skip (before + 1) := by
  obtain ⟨script, count, shared, held, rfl⟩ := hserved.after_eq
  show (state.provider.next state.bindings).2 = _
  rw [hprovider, TokenProvider.next_eq_skip, TokenProvider.skip_skip]

theorem ServedAll.taken {profiles : List String} {all : List Segment}
    {outcome : Except Failure (List PropertySource)}
    (hall : ServedAll repository query profiles state all built outcome after)
    (hprovider : state.provider = provider.skip before) :
    Taken provider before all ∧ after.provider = provider.skip (before + all.length) := by
  induction hall generalizing before with
  | nil => exact ⟨.nil, hprovider⟩
  | stop hserved =>
    have hafter := hserved.provider_eq hprovider
    exact ⟨.singleton hprovider hafter, hafter⟩
  | next hserved hrest ih =>
    have hafter := hserved.provider_eq hprovider
    obtain ⟨hlater, hleft⟩ := ih hafter
    refine ⟨Taken.append (.singleton hprovider hafter) hlater, ?_⟩
    rw [hleft, List.length_cons]
    congr 1
    omega

theorem Requested.taken {outcome : Except Failure Environment} {events : List Event}
    (hrequested : Requested repository query state outcome events built after)
    (hprovider : state.provider = provider.skip before) :
    Taken provider before (repository.segments query state) ∧
      after.provider = provider.skip (before + (repository.segments query state).length) := by
  cases hrequested with
  | intro records held hall hheld hinitial hcloses => exact hall.taken hprovider

end

/-! ### What decides a segment -/

/-- The stages at which serving a segment can fail, each with what it raises. -/
inductive Segment.Fails (repository : Repository) (query : Query) (segment : Segment) :
    Failure → Prop
  /-- The token that the segment takes cannot be decoded. -/
  | resolving {failure : Failure}
      (hsource : repository.sourceFor segment.before.token = .error failure) :
      Fails repository query segment failure
  /-- No client can be built for the source. -/
  | connecting {source : Source} {failure : Failure}
      (hsource : repository.sourceFor segment.before.token = .ok source)
      (hconnect : segment.before.service.connect (source.session repository.properties.region) =
        .error failure) : Fails repository query segment failure
  /-- The pages cannot all be read. -/
  | fetching {source : Source} {built : Client × Service} {failure : Failure}
      (hsource : repository.sourceFor segment.before.token = .ok source)
      (hconnect : segment.before.service.connect (source.session repository.properties.region) =
        .ok built)
      (hfetched : Fetch.reported (repository.properties.path query.application segment.profile)
        (segment.before.service.readPages
          (repository.properties.path query.application segment.profile) none).outcome =
            .error failure) :
      Fails repository query segment failure
  /-- The parameters make no property source. -/
  | flattening {source : Source} {built : Client × Service} {parameters : List Parameter}
      {failure : Failure} (hsource : repository.sourceFor segment.before.token = .ok source)
      (hconnect : segment.before.service.connect (source.session repository.properties.region) =
        .ok built)
      (hfetched : (segment.before.service.readPages
        (repository.properties.path query.application segment.profile) none).outcome =
          .ok parameters)
      (hbuilt : PropertySource.ofParameters
        (repository.properties.path query.application segment.profile) parameters =
          .error failure) :
      Fails repository query segment failure

theorem Segment.fails_iff {segment : Segment} {failure : Failure} :
    segment.Fails repository query failure ↔
      repository.profileOutcome query segment.profile segment.before = .error failure := by
  unfold profileOutcome
  constructor
  · intro hfails
    cases hfails with
    | resolving hsource =>
      rw [hsource]
      rfl
    | connecting hsource hconnect =>
      rw [hsource]
      dsimp only [Except.bind]
      rw [Service.admission_of_connect_error hconnect]
    | fetching hsource hconnect hfetched =>
      rw [hsource]
      dsimp only [Except.bind]
      rw [Service.admission_of_connect hconnect]
      dsimp only [sourceRead]
      rw [hfetched]
      rfl
    | flattening hsource hconnect hfetched hbuilt =>
      rw [hsource]
      dsimp only [Except.bind]
      rw [Service.admission_of_connect hconnect]
      dsimp only [sourceRead]
      rw [hfetched]
      exact hbuilt
  · intro houtcome
    cases hsource : repository.sourceFor segment.before.token with
    | error other =>
      rw [hsource] at houtcome
      obtain rfl := Except.error.inj houtcome
      exact .resolving hsource
    | ok source =>
      rw [hsource] at houtcome
      dsimp only [Except.bind] at houtcome
      cases hconnect : segment.before.service.connect
          (source.session repository.properties.region) with
      | error other =>
        rw [Service.admission_of_connect_error hconnect] at houtcome
        obtain rfl := Except.error.inj houtcome
        exact .connecting hsource hconnect
      | ok built =>
        rw [Service.admission_of_connect hconnect] at houtcome
        dsimp only [sourceRead] at houtcome
        cases hfetched : Fetch.reported
            (repository.properties.path query.application segment.profile)
            (segment.before.service.readPages
              (repository.properties.path query.application segment.profile) none).outcome with
        | error other =>
          rw [hfetched] at houtcome
          obtain rfl := Except.error.inj houtcome
          exact .fetching hsource hconnect hfetched
        | ok parameters =>
          rw [hfetched] at houtcome
          exact .flattening hsource hconnect (Fetch.eq_ok_of_reported hfetched) houtcome

/-- A segment that fails is the last one; with none that fails, all profiles have theirs. -/
theorem ServedAll.cases_outcome {profiles : List String} {state after : ServingState}
    {all : List Segment} {built : List Client} {outcome : Except Failure (List PropertySource)}
    (hall : ServedAll repository query profiles state all built outcome after) :
    (∃ failure front last, outcome = .error failure ∧ all = front ++ [last] ∧
        last.outcome = .error failure ∧
        ∀ segment ∈ front, ∃ propertySource, segment.outcome = .ok propertySource) ∨
      ∃ propertySources, outcome = .ok propertySources ∧ all.map Segment.profile = profiles ∧
        all.map Segment.outcome = propertySources.map .ok := by
  induction hall with
  | nil => exact .inr ⟨[], rfl, rfl, rfl⟩
  | stop hserved => exact .inl ⟨_, [], _, rfl, rfl, rfl, fun segment hsegment => nomatch hsegment⟩
  | @next _ _ _ _ _ propertySource _ _ _ later _ hserved hrest ih =>
    rcases ih with ⟨failure, front, last, rfl, rfl, hlast, hfront⟩ |
      ⟨propertySources, rfl, hprofiles, houtcomes⟩
    · refine .inl ⟨failure, _ :: front, last, rfl, rfl, hlast, ?_⟩
      intro segment hsegment
      rcases List.mem_cons.mp hsegment with rfl | hlater
      · exact ⟨propertySource, rfl⟩
      · exact hfront segment hlater
    · refine .inr ⟨propertySource :: propertySources, rfl, ?_, ?_⟩
      · rw [List.map_cons, hprofiles]
      · rw [List.map_cons, List.map_cons, houtcomes]

/-- The failure is that of the first segment which fails, and this is the last one. -/
theorem ServedAll.first_failure {profiles : List String} {state after : ServingState}
    {all : List Segment} {built : List Client} {failure : Failure}
    (hall : ServedAll repository query profiles state all built (.error failure) after)
    (houtcomes : ∀ segment ∈ all,
      segment.outcome = repository.profileOutcome query segment.profile segment.before) :
    ∃ front last, all = front ++ [last] ∧ last.Fails repository query failure ∧
      ∀ segment ∈ front, ∀ other, ¬ segment.Fails repository query other := by
  rcases hall.cases_outcome with ⟨other, front, last, hother, rfl, hlast, hfront⟩ |
    ⟨propertySources, hanswer, _⟩
  · obtain rfl := Except.error.inj hother
    refine ⟨front, last, rfl, ?_, ?_⟩
    · rwa [Segment.fails_iff, ← houtcomes last (by simp)]
    · intro segment hsegment other hraised
      obtain ⟨propertySource, hserved⟩ := hfront segment hsegment
      rw [houtcomes segment (List.mem_append_left _ hsegment), Segment.fails_iff.mp hraised]
        at hserved
      cases hserved
  · cases hanswer

/-! ### What decides a request -/

/-- What decides a request are its segments, one for each profile in order, up to the first that fails. -/
structure Decided (repository : Repository) (query : Query) (before after : ServingState)
    (observed : Observed Environment) : Prop where
  profiles : ((repository.segments query before).map Segment.profile).IsPrefix
    (splitProfiles query.profiles)
  /-- The token of a segment, the service and the profile settle what the segment comes to. -/
  outcomes : ∀ segment ∈ repository.segments query before,
    segment.outcome = repository.profileOutcome query segment.profile segment.before
  /-- The request fails just when one of them does. -/
  fails : (∃ failure, observed.outcome = .error failure) ↔
    ∃ segment ∈ repository.segments query before, ∃ failure,
      segment.Fails repository query failure
  /-- It fails with the failure of the first such segment, behind which none is started. -/
  first : ∀ failure, observed.outcome = .error failure ↔
    ∃ front last, repository.segments query before = front ++ [last] ∧
      last.Fails repository query failure ∧
      ∀ segment ∈ front, ∀ other, ¬ segment.Fails repository query other
  /-- Otherwise all profiles have their segments, and these have brought the property sources of the answer. -/
  answered : ∀ environment, observed.outcome = .ok environment →
    (repository.segments query before).map Segment.profile = splitProfiles query.profiles ∧
      (repository.segments query before).map Segment.outcome =
        environment.propertySources.map .ok
  /-- Nobody else takes a token, opens a session or makes a call. -/
  tokens : after.provider = before.provider.skip (repository.segments query before).length
  events : ∃ ending,
    observed.events = (repository.segments query before).flatMap Segment.events ++ ending ∧
      Event.sessions ending = [] ∧ Event.calls ending = []

theorem Requested.decided {before after : ServingState} {outcome : Except Failure Environment}
    {events : List Event} {built : List Client}
    (hrequested : Requested repository query before outcome events built after)
    (havailable : Available repository.properties.region before)
    (hcloses : before.service.failingCloses = []) :
    Decided repository query before { after with trace := events } { outcome, events } := by
  have htokens := (hrequested.taken (before.provider.skip_zero).symm).2
  rw [Nat.zero_add] at htokens
  have hfailed : ∀ failure, outcome = .error failure ↔
      ∃ segment ∈ repository.segments query before, segment.Fails repository query failure := by
    intro failure
    simp only [Segment.fails_iff]
    exact hrequested.failed_iff havailable hcloses
  cases hrequested with
  | @intro served middle _ closed records held hall hheld hinitial hclosed hrecords =>
    obtain ⟨script, count, hservice⟩ := hall.service_eq
    obtain ⟨_, houtcome⟩ := hclosed (by rw [hservice]; exact hcloses)
    have hstart : Available repository.properties.region { before with held := ∅ } :=
      havailable.of_same_clients rfl rfl rfl fun _ hentry => nomatch hentry
    have hsegments := hall.segment_outcome hstart
    refine
      { profiles := segmentsFrom_profiles _ _, outcomes := hsegments, fails := ?_, first := ?_
        answered := ?_, tokens := htokens, events := ⟨_, rfl, by simp, by simp⟩ }
    · constructor
      · rintro ⟨failure, hfailure⟩
        obtain ⟨segment, hsegment, hraised⟩ := (hfailed failure).mp hfailure
        exact ⟨segment, hsegment, failure, hraised⟩
      · rintro ⟨segment, hsegment, failure, hraised⟩
        exact ⟨failure, (hfailed failure).mpr ⟨segment, hsegment, hraised⟩⟩
    · intro failure
      constructor
      · intro hfailure
        cases served with
        | error other =>
          obtain rfl := Except.error.inj (houtcome.symm.trans hfailure)
          exact hall.first_failure hsegments
        | ok propertySources => exact nomatch houtcome.symm.trans hfailure
      · rintro ⟨front, last, hall', hraised, _⟩
        refine (hfailed failure).mpr ⟨last, ?_, hraised⟩
        rw [hall']
        simp
    · intro environment hanswer
      rcases hall.cases_outcome with ⟨failure, front, last, rfl, _⟩ |
        ⟨propertySources, rfl, hprofiles, houtcomes⟩
      · exact nomatch houtcome.symm.trans hanswer
      · obtain rfl := Except.ok.inj (houtcome.symm.trans hanswer)
        exact ⟨hprofiles, houtcomes⟩

/-! ### Runs -/

/-- The segments that a step starts. Only requests do. -/
def Step.started (repository : Repository) (state : ServingState) : Step → List Segment
  | .findOne query => repository.segments query state
  | _ => []

def started (repository : Repository) : List Step → ServingState → List Segment
  | [], _ => []
  | step :: rest, state =>
    step.started repository state ++
      started repository rest (observe (step.perform repository) state).2

theorem started_append (repository : Repository) (first second : List Step)
    (state : ServingState) :
    repository.started (first ++ second) state =
      repository.started first state ++ repository.started second (repository.run first state).2 := by
  induction first generalizing state with
  | nil => rfl
  | cons step rest ih => rw [List.cons_append, started, started, ih, run_cons, List.append_assoc]

theorem taken_step {provider : TokenProvider} {before : Nat} (step : Step) (state : ServingState)
    (hprovider : state.provider = provider.skip before) :
    Taken provider before (step.started repository state) ∧
      (observe (step.perform repository) state).2.provider =
        provider.skip (before + (step.started repository state).length) := by
  cases step with
  | findOne query =>
    obtain ⟨outcome, events, built, after, hrequested, hruns⟩ :=
      exists_requested repository query state
    have hperformed : Runs (Step.perform repository (.findOne query)) state _ _ _ :=
      Runs.map some hruns
    obtain ⟨htaken, hleft⟩ := hrequested.taken hprovider
    refine ⟨htaken, ?_⟩
    rw [hperformed.observe]
    exact hleft
  | put name value => exact ⟨.nil, hprovider⟩
  | delete name => exact ⟨.nil, hprovider⟩
  | prepare replies => exact ⟨.nil, hprovider⟩
  | bind headers => exact ⟨.nil, hprovider⟩
  | unbind => exact ⟨.nil, hprovider⟩

/-- A run goes on with the tokens where the steps before it have left off. -/
theorem taken_started {provider : TokenProvider} {before : Nat} (steps : List Step)
    (state : ServingState) (hprovider : state.provider = provider.skip before) :
    Taken provider before (repository.started steps state) ∧
      (repository.run steps state).2.provider =
        provider.skip (before + (repository.started steps state).length) := by
  induction steps generalizing state before with
  | nil => exact ⟨.nil, hprovider⟩
  | cons step rest ih =>
    obtain ⟨hhere, hafter⟩ := taken_step step state hprovider
    obtain ⟨hrest, hleft⟩ := ih (observe (step.perform repository) state).2 hafter
    rw [started, run_cons, hleft, List.length_append, Nat.add_assoc]
    exact ⟨hhere.append hrest, rfl⟩

/-- In every run the segments started take the tokens in their order, one each, and every request is decided by its segments, up to the first that fails. -/
theorem segments_in_order (repository : Repository) (service : Service)
    (provider : TokenProvider) (bindings : Bindings) (steps : List Step)
    (hcloses : service.failingCloses = []) :
    let start : ServingState := { service, provider, bindings }
    let before := (repository.run steps start).2
    let started := repository.started steps start
    (∀ place segment, started[place]? = some segment →
      segment.before.token = provider.token place segment.before.bindings ∧
        segment.before.provider = provider.skip place ∧
        segment.after.provider = provider.skip (place + 1)) ∧
    before.provider = provider.skip started.length ∧
    ∀ query,
      repository.started (steps ++ [.findOne query]) start =
          started ++ repository.segments query before ∧
        Decided repository query before (observe (repository.findOne query) before).2
          (observe (repository.findOne query) before).1 := by
  intro start before started
  obtain ⟨htaken, hleft⟩ := @taken_started repository provider 0 steps start
    (provider.skip_zero).symm
  rw [Nat.zero_add] at hleft
  refine ⟨?_, hleft, fun query => ⟨?_, ?_⟩⟩
  · intro place segment hsegment
    have htoken := htaken.token hsegment
    obtain ⟨hbefore, hafter⟩ := htaken place segment hsegment
    rw [Nat.zero_add] at htoken hbefore hafter
    exact ⟨htoken, hbefore, hafter⟩
  · rw [started_append]
    exact congrArg (started ++ ·) (List.append_nil _)
  · have havailable : Available repository.properties.region before :=
      repository.run_available (.start service provider bindings) steps
    obtain ⟨outcome, events, built, after, hrequested, hruns⟩ :=
      exists_requested repository query before
    rw [hruns.observe]
    exact hrequested.decided havailable (repository.run_failingCloses steps hcloses)

/-- Two tokens that cannot be decoded: the first one ends its request before the second profile, so the second one goes to the request that follows. -/
theorem segments_in_order_undecodable :
    let repository : Repository := { properties := {} }
    let steps : List Step :=
      [.findOne { application := "app", profiles := some "a,b" },
       .findOne { application := "app", profiles := some "c" }]
    let start : ServingState := { provider := .sequence [some "!", some "?"] }
    (repository.started steps start).map Segment.profile = ["a", "c"] ∧
      ∀ segment, (repository.started steps start)[1]? = some segment →
        segment.before.token = some "?" := by
  intro repository steps start
  refine ⟨by rfl, ?_⟩
  intro segment hsegment
  have horder := segments_in_order repository {} (.sequence [some "!", some "?"]) [] steps rfl
  exact (horder.1 1 segment hsegment).1

end Repository
end ParameterConfig
