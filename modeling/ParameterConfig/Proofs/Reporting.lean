import ParameterConfig.Proofs.Causes
import ParameterConfig.Proofs.Shown

/-!
# How failures are reported

A refusal of the service or a fault of the transport that is raised by a request for a page leaves the request as a fetch error, which names the path and a code. The same faults are passed on unchanged when they are raised for want of a client, before the first page is asked for, and that is the only way in which they leave a request. `Reported` says all of this of a request.
-/

namespace ParameterConfig

open Serving

/-! ### Failures that have a code -/

/-- The code under which a refusal of the service or a fault of the transport is reported. Other failures have none. -/
def Failure.fetchCode? : Failure → Option Json
  | .refused code => some code
  | .transport fault => some (.string fault.name)
  | _ => none

namespace Fetch

theorem reported_of_code {failure : Failure} {code : Json} (hcode : failure.fetchCode? = some code)
    (path : String) : reported path (.error failure) = .error (Failure.fetchFailed path code) := by
  cases failure with
  | refused other => cases hcode; rfl
  | transport fault => cases hcode; rfl
  | library error => cases hcode
  | ordinary fault message => cases hcode
  | interrupted => cases hcode
  | invalid issues => cases hcode

theorem fetchCode?_of_reported {path : String} {outcome : Except Failure (List Parameter)}
    {failure : Failure} (hreported : reported path outcome = .error failure) :
    failure.fetchCode? = none := by
  cases outcome with
  | ok parameters => cases hreported
  | error other => cases other <;> (cases hreported; rfl)

end Fetch

namespace Repository

variable {repository : Repository} {query : Query}

theorem fetchCode?_of_sourceRead {path : String} {outcome : Except Failure (List Parameter)}
    {failure : Failure} (hread : sourceRead path outcome = .error failure) :
    failure.fetchCode? = none := by
  unfold sourceRead at hread
  cases hreported : Fetch.reported path outcome with
  | error other =>
    rw [hreported] at hread
    obtain rfl := Except.error.inj hread
    exact Fetch.fetchCode?_of_reported hreported
  | ok parameters =>
    rw [hreported] at hread
    obtain ⟨fault, message, rfl⟩ := PropertySource.exists_fault_of_parameters hread
    rfl

theorem fetchCode?_of_sourceFor {token : Option String} {failure : Failure}
    (hsource : repository.sourceFor token = .error failure) : failure.fetchCode? = none := by
  obtain ⟨_, _, _, _, rfl⟩ := exists_of_sourceFor_error hsource
  rfl

/-! ### What a segment comes to -/

/-- What serving a profile comes to, told without clients. -/
def profileOutcome (repository : Repository) (query : Query) (profile : String)
    (state : ServingState) : Except Failure PropertySource :=
  (repository.sourceFor state.token).bind fun source =>
    (state.service.admission (source.session repository.properties.region)).bind fun _ =>
      let path := repository.properties.path query.application profile
      sourceRead path (state.service.readPages path none).outcome

theorem Served.outcome_eq {profile : String} {state after : ServingState}
    {outcome : Except Failure PropertySource} {events : List Event} {built : List Client}
    (hserved : Served repository query profile state outcome events built after)
    (havailable : Available repository.properties.region state) :
    outcome = repository.profileOutcome query profile state := by
  have hshown := congrArg (fun shown => shown.1.outcome) (hserved.shown_eq havailable)
  dsimp only at hshown
  rw [← hshown]
  unfold showProfile profileOutcome
  rw [state.token_circumstances]
  cases repository.sourceFor state.token with
  | error failure => rfl
  | ok source =>
    have hadmission : state.circumstances.service.admission
        (source.session repository.properties.region) =
          state.service.admission (source.session repository.properties.region) := rfl
    dsimp only [Except.bind]
    rw [hadmission]
    cases state.service.admission (source.session repository.properties.region) with
    | error failure => rfl
    | ok admitted =>
      exact congrArg (sourceRead _) (state.service.readPages_built 0 _ none).2.1

namespace ServedAll

variable {profiles : List String} {state after : ServingState} {all : List Segment}
  {built : List Client} {outcome : Except Failure (List PropertySource)} {failure : Failure}

theorem segment_outcome
    (hall : ServedAll repository query profiles state all built outcome after)
    (havailable : Available repository.properties.region state) :
    ∀ segment ∈ all,
      segment.outcome = repository.profileOutcome query segment.profile segment.before := by
  induction hall with
  | nil => exact fun segment hsegment => nomatch hsegment
  | stop hserved =>
    intro segment hsegment
    obtain rfl := List.mem_singleton.mp hsegment
    exact hserved.outcome_eq havailable
  | next hserved hrest ih =>
    intro segment hsegment
    rcases List.mem_cons.mp hsegment with rfl | hlater
    · exact hserved.outcome_eq havailable
    · refine ih ?_ segment hlater
      exact (hserved.available havailable).of_same_clients rfl rfl rfl fun _ hentry => hentry

theorem failed_iff (hall : ServedAll repository query profiles state all built outcome after) :
    outcome = .error failure ↔ ∃ segment ∈ all, segment.outcome = .error failure := by
  induction hall with
  | nil => simp
  | stop hserved => simp
  | @next _ _ _ _ _ propertySource _ _ _ later outcome hserved hrest ih =>
    rw [List.exists_mem_cons_iff]
    simp only [reduceCtorEq, false_or, ← ih]
    cases outcome <;> simp [Except.map]

end ServedAll

/-! ### Failures of a request -/

/-- There is no client to be had for the segment: the session or the client over it cannot be made. -/
def Segment.RaisedForClient (repository : Repository) (segment : Segment) (failure : Failure) :
    Prop :=
  ∃ source, repository.sourceFor segment.before.token = .ok source ∧
    segment.before.service.connect (source.session repository.properties.region) = .error failure

/-- One of the requests for pages is replied to with the failure. -/
def Segment.RaisedByPage (repository : Repository) (query : Query) (segment : Segment)
    (failure : Failure) : Prop :=
  ∃ source built, repository.sourceFor segment.before.token = .ok source ∧
    segment.before.service.connect (source.session repository.properties.region) = .ok built ∧
    Service.Raises (repository.properties.path query.application segment.profile)
      segment.before.service none failure

/-- What becomes of refusals of the service and faults of the transport in a request. -/
structure Reported (repository : Repository) (query : Query) (segments : List Segment)
    (outcome : Except Failure Environment) : Prop where
  /-- Raised by a request for a page, they are reported with the path and their code. -/
  pages : ∀ segment ∈ segments, ∀ failure code, segment.RaisedByPage repository query failure →
    failure.fetchCode? = some code →
      ∃ error, outcome = .error (.library error) ∧ error.kind = .storeFetch ∧
        error.kind.exitCode = 11 ∧ error.details.entries =
          [("path", .string (repository.properties.path query.application segment.profile)),
           ("error_code", code)]
  /-- Raised for want of a client, they are passed on. -/
  clients : ∀ segment ∈ segments, ∀ failure, segment.RaisedForClient repository failure →
    outcome = .error failure
  /-- In no other way do they leave the request. -/
  passed : ∀ failure code, outcome = .error failure → failure.fetchCode? = some code →
    ∃ segment ∈ segments, segment.RaisedForClient repository failure
  /-- Refusals do not leave it at all. -/
  refusals : ∀ code, outcome ≠ .error (.refused code)

section

variable {segment : Segment} {failure : Failure} {code : Json}

theorem Segment.RaisedByPage.profileOutcome_eq
    (hraised : segment.RaisedByPage repository query failure)
    (hcode : failure.fetchCode? = some code) :
    repository.profileOutcome query segment.profile segment.before =
      .error (Failure.fetchFailed
        (repository.properties.path query.application segment.profile) code) := by
  obtain ⟨source, ⟨client, service⟩, hsource, hconnect, hraises⟩ := hraised
  unfold profileOutcome
  rw [hsource]
  dsimp only [Except.bind]
  rw [Service.admission_of_connect hconnect]
  dsimp only
  unfold sourceRead
  rw [Service.raises_iff.mp hraises, Fetch.reported_of_code hcode]
  rfl

theorem Segment.RaisedForClient.profileOutcome_eq
    (hraised : segment.RaisedForClient repository failure) :
    repository.profileOutcome query segment.profile segment.before = .error failure := by
  obtain ⟨source, hsource, hconnect⟩ := hraised
  unfold profileOutcome
  rw [hsource]
  dsimp only [Except.bind]
  rw [Service.admission_of_connect_error hconnect]

/-- A failure with a code can only have come up for want of a client. -/
theorem raisedForClient_of_profileOutcome
    (hfailed : repository.profileOutcome query segment.profile segment.before = .error failure)
    (hcode : failure.fetchCode? = some code) : segment.RaisedForClient repository failure := by
  unfold profileOutcome at hfailed
  cases hsource : repository.sourceFor segment.before.token with
  | error other =>
    rw [hsource] at hfailed
    obtain rfl := Except.error.inj hfailed
    rw [fetchCode?_of_sourceFor hsource] at hcode
    cases hcode
  | ok source =>
    refine ⟨source, hsource, ?_⟩
    rw [hsource] at hfailed
    dsimp only [Except.bind] at hfailed
    rw [Service.connect_eq]
    cases hadmission : segment.before.service.admission
        (source.session repository.properties.region) with
    | error other =>
      rw [hadmission] at hfailed
      exact congrArg _ (Except.error.inj hfailed)
    | ok admitted =>
      rw [hadmission] at hfailed
      rw [fetchCode?_of_sourceRead hfailed] at hcode
      cases hcode

theorem Segment.RaisedForClient.eq_or_eq (hraised : segment.RaisedForClient repository failure) :
    failure = .transport .profileNotFound ∨ failure = .transport .noRegion := by
  obtain ⟨source, hsource, hconnect⟩ := hraised
  exact Service.eq_or_eq_of_admission (Service.admission_of_connect_error hconnect)

end

/-- The request fails where one of its segments does. -/
theorem Requested.failed_iff {before after : ServingState} {outcome : Except Failure Environment}
    {events : List Event} {built : List Client} {failure : Failure}
    (hrequested : Requested repository query before outcome events built after)
    (havailable : Available repository.properties.region before)
    (hcloses : before.service.failingCloses = []) :
    outcome = .error failure ↔ ∃ segment ∈ repository.segments query before,
      repository.profileOutcome query segment.profile segment.before = .error failure := by
  cases hrequested with
  | @intro served middle _ closed records held hall hheld hinitial hclosed hrecords =>
    obtain ⟨script, count, hservice⟩ := hall.service_eq
    obtain ⟨_, houtcome⟩ := hclosed (by rw [hservice]; exact hcloses)
    have hstart : Available repository.properties.region { before with held := ∅ } :=
      havailable.of_same_clients rfl rfl rfl fun _ hentry => nomatch hentry
    have hsegments := hall.segment_outcome hstart
    have hserved : outcome = .error failure ↔ served = .error failure := by
      rw [houtcome]
      cases served <;> simp [Except.map]
    rw [hserved, hall.failed_iff]
    constructor
    · rintro ⟨segment, hsegment, hfailed⟩
      exact ⟨segment, hsegment, hsegments segment hsegment ▸ hfailed⟩
    · rintro ⟨segment, hsegment, hfailed⟩
      exact ⟨segment, hsegment, (hsegments segment hsegment).trans hfailed⟩

theorem findOne_of_first_failure {before : ServingState} {failure : Failure} {first : String}
    {rest : List String} (hprofiles : splitProfiles query.profiles = first :: rest)
    (havailable : Available repository.properties.region before)
    (hcloses : before.service.failingCloses = [])
    (hfailed : repository.profileOutcome query first { before with held := ∅ } = .error failure) :
    (observe (repository.findOne query) before).1.outcome = .error failure := by
  obtain ⟨outcome, events, built, after, hrequested, hruns⟩ :=
    exists_requested repository query before
  obtain ⟨segment, hsegment, rfl, hbefore⟩ := exists_segment_first repository before hprofiles
  rw [hruns.observe]
  exact (hrequested.failed_iff havailable hcloses).mpr ⟨segment, hsegment, hbefore ▸ hfailed⟩

/-- After every run, a request reports the refusals and faults that its page requests raise, and passes on those that stand in the way of a client. -/
theorem failures_reported (repository : Repository) (service : Service) (provider : TokenProvider)
    (bindings : Bindings) (steps : List Step) (query : Query)
    (hcloses : service.failingCloses = []) :
    let before := (repository.run steps { service, provider, bindings }).2
    Reported repository query (repository.segments query before)
      (observe (repository.findOne query) before).1.outcome := by
  intro before
  have havailable : Available repository.properties.region before :=
    repository.run_available (.start service provider bindings) steps
  have hclosable : before.service.failingCloses = [] :=
    repository.run_failingCloses steps hcloses
  obtain ⟨outcome, events, built, after, hrequested, hruns⟩ :=
    exists_requested repository query before
  rw [hruns.observe]
  have hfailed : ∀ failure, outcome = .error failure ↔
      ∃ segment ∈ repository.segments query before,
        repository.profileOutcome query segment.profile segment.before = .error failure :=
    fun failure => hrequested.failed_iff havailable hclosable
  have hpassed : ∀ failure code, outcome = .error failure → failure.fetchCode? = some code →
      ∃ segment ∈ repository.segments query before,
        segment.RaisedForClient repository failure := by
    intro failure code houtcome hcode
    obtain ⟨segment, hsegment, hsame⟩ := (hfailed failure).mp houtcome
    exact ⟨segment, hsegment, raisedForClient_of_profileOutcome hsame hcode⟩
  constructor
  case pages =>
    intro segment hsegment failure code hraised hcode
    refine ⟨_, (hfailed _).mpr ⟨segment, hsegment, hraised.profileOutcome_eq hcode⟩, rfl, rfl, ?_⟩
    rfl
  case clients =>
    intro segment hsegment failure hraised
    exact (hfailed failure).mpr ⟨segment, hsegment, hraised.profileOutcome_eq⟩
  case passed => exact hpassed
  case refusals =>
    intro code houtcome
    obtain ⟨segment, _, hraised⟩ := hpassed (.refused code) code houtcome rfl
    rcases hraised.eq_or_eq with hprofile | hregion
    · cases hprofile
    · cases hregion

theorem failures_reported_refused :
    let repository : Repository := { properties := {} }
    let query : Query := { application := "a", profiles := some "p,q" }
    let service : Service := { script := [.failure (.refused (.string "AccessDenied"))] }
    ∃ error, (observe (repository.findOne query)
        { service, provider := .fixed none }).1.outcome = .error (.library error) ∧
      error.kind = .storeFetch ∧ error.kind.exitCode = 11 ∧
      error.details.entries =
        [("path", .string "/a/p/"), ("error_code", .string "AccessDenied")] := by
  intro repository query service
  have hreported := failures_reported repository service (.fixed none) [] [] query rfl
  have hprofiles : splitProfiles query.profiles = ["p", "q"] := by decide
  obtain ⟨segment, hsegment, hprofile, hbefore⟩ :=
    exists_segment_first repository { service, provider := .fixed none } hprofiles
  have hraised : segment.RaisedByPage repository query (.refused (.string "AccessDenied")) := by
    unfold Segment.RaisedByPage
    rw [hbefore]
    exact ⟨.ambient, _, rfl, rfl, .now rfl⟩
  have hpage := hreported.pages segment hsegment _ _ hraised rfl
  have hpath : repository.properties.path query.application segment.profile = "/a/p/" := by
    rw [hprofile]
    decide
  rwa [hpath] at hpage

/-- A profile that this machine does not know is a fault of the transport that leaves the request as it is. -/
theorem failures_not_reported_unknown_profile :
    let repository : Repository := { properties := { profile := some "nope" } }
    let query : Query := { application := "app", profiles := some "dev" }
    let state : ServingState := { service := { localProfiles := some ["yes"] } }
    (∃ segment ∈ repository.segments query state,
        segment.RaisedForClient repository (.transport .profileNotFound)) ∧
      (observe (repository.findOne query) state).1.outcome =
        .error (.transport .profileNotFound) := by
  intro repository query state
  have houtcome : (observe (repository.findOne query) state).1.outcome =
      .error (.transport .profileNotFound) := by rfl
  exact ⟨⟨_, List.mem_cons_self, .profile "nope", rfl, rfl⟩, houtcome⟩

end Repository
end ParameterConfig
