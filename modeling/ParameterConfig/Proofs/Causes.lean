import ParameterConfig.Proofs.Availability
import ParameterConfig.Proofs.Isolation

/-!
# Where failures come from

A request fails for one of a few causes: its token cannot be decoded, there is no client to be had, a reply was prepared that fails, what the service says or the store holds cannot be made sense of, or a client cannot be closed. `arises_of_findOne` says that there are no others; in particular an error of the library that was not prepared is one about a token or about a fetch.
-/

namespace ParameterConfig

open Serving

/-- The causes of a failure at a service. -/
inductive Failure.Arises (service : Service) : Failure → Prop
  | prepared {failure : Failure} (hprepared : .failure failure ∈ service.script) :
      Arises service failure
  | unavailable (fault : TransportFault) : Arises service (.transport fault)
  | undecodable (rejection : SessionCredentials.Rejection) :
      Arises service (Failure.undecodableToken rejection.name)
  | refused (path : String) {code : Json} (hprepared : .failure (.refused code) ∈ service.script) :
      Arises service (Failure.fetchFailed path code)
  | unreached (path : String) (fault : TransportFault) :
      Arises service (Failure.fetchFailed path (.string fault.name))
  | ordinary (fault : Fault) (message : String) : Arises service (.ordinary fault message)

theorem Failure.Arises.of_subset {service before : Service} {failure : Failure}
    (harises : Failure.Arises service failure) (hscript : service.script ⊆ before.script) :
    Failure.Arises before failure := by
  cases harises with
  | prepared hprepared => exact .prepared (hscript hprepared)
  | unavailable fault => exact .unavailable fault
  | undecodable rejection => exact .undecodable rejection
  | refused path hprepared => exact .refused path (hscript hprepared)
  | unreached path fault => exact .unreached path fault
  | ordinary fault message => exact .ordinary fault message

/-! ### Faults in what is read -/

theorem exists_of_mapM_error {α β : Type} {f : α → Except Failure β} {items : List α}
    {failure : Failure} (hfailed : items.mapM f = .error failure) :
    ∃ item ∈ items, f item = .error failure := by
  induction items with
  | nil => cases hfailed
  | cons item rest ih =>
    rw [List.mapM_cons] at hfailed
    cases hitem : f item with
    | error other =>
      rw [hitem] at hfailed
      obtain rfl := Except.error.inj hfailed
      exact ⟨item, List.mem_cons_self, hitem⟩
    | ok result =>
      have hrest : rest.mapM f = .error failure := by
        rw [hitem] at hfailed
        cases hlater : rest.mapM f with
        | error other =>
          rw [hlater] at hfailed
          exact congrArg _ (Except.error.inj hfailed)
        | ok results =>
          rw [hlater] at hfailed
          cases hfailed
      obtain ⟨found, hfound, hfailure⟩ := ih hrest
      exact ⟨found, List.mem_cons_of_mem _ hfound, hfailure⟩

/-- Parameters of which no property source can be made are ordinary faults. -/
theorem PropertySource.exists_fault_of_parameters {path : String} {parameters : List Parameter}
    {failure : Failure} (hbuilt : ofParameters path parameters = .error failure) :
    ∃ fault message, failure = .ordinary fault message := by
  unfold ofParameters at hbuilt
  cases hpairs : parameters.mapM (fun parameter =>
      (parameter.key path).map fun key => (key, parameter.value)) with
  | ok pairs =>
    rw [hpairs] at hbuilt
    cases hbuilt
  | error other =>
    rw [hpairs] at hbuilt
    obtain rfl := Except.error.inj hbuilt
    obtain ⟨parameter, _, hfailed⟩ := exists_of_mapM_error hpairs
    unfold Parameter.key at hfailed
    cases hname : parameter.name <;> rw [hname] at hfailed <;> cases hfailed
    all_goals exact ⟨_, _, rfl⟩

theorem Page.exists_fault_of_response {response : Json} {failure : Failure}
    (hread : ofResponse response = .error failure) :
    ∃ fault message, failure = .ordinary fault message := by
  cases response with
  | object members =>
    cases hitems : parameterList ((Json.member? "Parameters" members).getD (.array [])) with
    | error other =>
      simp only [ofResponse, hitems] at hread
      obtain rfl := Except.error.inj hread
      unfold parameterList at hitems
      split at hitems <;> cases hitems
      exact ⟨_, _, rfl⟩
    | ok items =>
      cases hparameters : items.mapM parameter? with
      | ok parameters =>
        simp only [ofResponse, hitems, bind, Except.bind, hparameters] at hread
        cases hread
      | error other =>
        simp only [ofResponse, hitems, bind, Except.bind, hparameters] at hread
        obtain rfl := Except.error.inj hread
        obtain ⟨item, _, hfailed⟩ := exists_of_mapM_error hparameters
        unfold parameter? at hfailed
        split at hfailed
        · split at hfailed <;> cases hfailed
          exact ⟨_, _, rfl⟩
        · cases hfailed
          exact ⟨_, _, rfl⟩
  | _ =>
    cases hread
    exact ⟨_, _, rfl⟩

namespace Service

variable {service : Service}

theorem exists_fault_of_startOf {token : Option PageToken} {failure : Failure}
    (hstart : startOf token = .error failure) :
    ∃ fault message, failure = .ordinary fault message := by
  cases token with
  | none => cases hstart
  | some token =>
    cases token with
    | offset start => cases hstart
    | given token =>
      change integerToken token = _ at hstart
      unfold integerToken at hstart
      split at hstart
      · rename_i s
        cases hread : Text.integer s with
        | ok n =>
          rw [hread] at hstart
          cases hstart
        | error fault =>
          rw [hread] at hstart
          cases hstart
          exact ⟨_, _, rfl⟩
      · cases hstart
      · cases hstart
      · split at hstart <;> cases hstart
        · exact ⟨_, _, rfl⟩
        · exact ⟨_, _, rfl⟩
      · cases hstart
        exact ⟨_, _, rfl⟩

/-! ### Pages -/

theorem reply_script_subset (service : Service) (request : Request) :
    (service.reply request).2.script ⊆ service.script := by
  unfold reply
  split
  · exact List.Subset.refl _
  · rename_i prepared script hscript
    rw [hscript]
    cases prepared <;> exact List.subset_cons_self _ _

theorem arises_of_reply {request : Request} {failure : Failure}
    (hreply : (service.reply request).1 = .error failure) : Failure.Arises service failure := by
  have hstore : ∀ failure, service.storeReply request = .error failure →
      Failure.Arises service failure := by
    intro failure hfailed
    unfold storeReply at hfailed
    cases hstart : startOf request.token with
    | ok start =>
      rw [hstart] at hfailed
      cases hfailed
    | error other =>
      rw [hstart] at hfailed
      obtain rfl := Except.error.inj hfailed
      obtain ⟨fault, message, rfl⟩ := exists_fault_of_startOf hstart
      exact .ordinary fault message
  unfold reply at hreply
  split at hreply
  · exact hstore failure hreply
  · rename_i prepared script hscript
    cases prepared with
    | failure other =>
      obtain rfl := Except.error.inj hreply
      exact .prepared (hscript ▸ List.mem_cons_self)
    | response response =>
      obtain ⟨fault, message, rfl⟩ := Page.exists_fault_of_response hreply
      exact .ordinary fault message
    | fromStore => exact hstore failure hreply

theorem readPages_script_subset (service : Service) (path : String) (token : Option PageToken) :
    (service.readPages path token).service.script ⊆ service.script := by
  fun_induction readPages service path token with
  | case1 service token request failure => exact reply_script_subset service request
  | case2 service token request page => exact reply_script_subset service request
  | case3 service token request page hreply next hnext hprogress later =>
    rename_i ih
    exact List.Subset.trans ih (reply_script_subset service request)

theorem arises_of_readPages {path : String} {token : Option PageToken} {failure : Failure}
    (houtcome : (service.readPages path token).outcome = .error failure) :
    Failure.Arises service failure := by
  have hraises := raises_iff.mpr houtcome
  clear houtcome
  induction hraises with
  | now hreply => exact arises_of_reply hreply
  | later hreply hnext hlater ih => exact ih.of_subset (reply_script_subset _ _)

end Service

/-! ### Segments -/

namespace Repository

variable {repository : Repository} {query : Query} {state after : ServingState}
  {events : List Event} {built : List Client} {failure : Failure}

/-- There is no source only where there is a token that cannot be decoded. -/
theorem exists_of_sourceFor_error {token : Option String}
    (hsource : repository.sourceFor token = .error failure) :
    ∃ sent rejection, token = some sent ∧ SessionCredentials.read sent = .error rejection ∧
      failure = Failure.undecodableToken rejection.name := by
  unfold sourceFor at hsource
  by_cases hblank : ∀ sent ∈ token, Blank sent
  · rw [sentCredentials_of_blank hblank] at hsource
    cases hsource
  · obtain ⟨sent, rfl, hsent⟩ : ∃ sent, token = some sent ∧ ¬ Blank sent := by
      simpa [Option.mem_def] using hblank
    rw [sentCredentials_of_sent hsent, SessionCredentials.decode] at hsource
    cases hread : SessionCredentials.read sent with
    | ok credentials =>
      rw [hread] at hsource
      cases hsource
    | error rejection =>
      rw [hread] at hsource
      obtain rfl := Except.error.inj hsource
      exact ⟨sent, rejection, rfl, hread, rfl⟩

theorem arises_of_sourceRead {service : Service} {path : String} {token : Option PageToken}
    (hread : sourceRead path (service.readPages path token).outcome = .error failure) :
    Failure.Arises service failure := by
  unfold sourceRead at hread
  cases houtcome : (service.readPages path token).outcome with
  | ok parameters =>
    rw [houtcome] at hread
    obtain ⟨fault, message, rfl⟩ := PropertySource.exists_fault_of_parameters hread
    exact .ordinary fault message
  | error other =>
    have harises := Service.arises_of_readPages houtcome
    rw [houtcome] at hread
    cases other with
    | refused code =>
      cases hread
      cases harises with
      | prepared hprepared => exact .refused path hprepared
    | transport fault =>
      cases hread
      exact .unreached path fault
    | library error => cases hread; exact harises
    | ordinary fault message => cases hread; exact harises
    | interrupted => cases hread; exact harises
    | invalid issues => cases hread; exact harises

theorem Served.script_subset {profile : String} {outcome : Except Failure PropertySource}
    (hserved : Served repository query profile state outcome events built after) :
    after.service.script ⊆ state.service.script := by
  cases hserved with
  | unresolved hsource => exact List.Subset.refl _
  | unconnected hsource hacquired =>
    obtain ⟨count, shared, held, rfl⟩ := hacquired.after_eq
    exact List.Subset.refl _
  | @read source client _ _ middle path reading hsource hacquired hpath hreading =>
    obtain ⟨count, shared, held, rfl⟩ := hacquired.after_eq
    rw [hreading]
    exact Service.readPages_script_subset _ _ _

theorem Served.arises {profile : String}
    (hserved : Served repository query profile state (.error failure) events built after) :
    Failure.Arises state.service failure := by
  generalize houtcome : (.error failure : Except Failure PropertySource) = outcome at hserved
  cases hserved with
  | unresolved hsource =>
    obtain rfl := Except.error.inj houtcome
    obtain ⟨_, rejection, _, _, rfl⟩ := exists_of_sourceFor_error hsource
    exact .undecodable rejection
  | unconnected hsource hacquired =>
    obtain rfl := Except.error.inj houtcome
    cases hacquired with
    | refused hheld hprovided =>
      cases hprovided with
      | unbuilt hshared hconnect =>
        rcases Service.eq_or_eq_of_admission
            (Service.admission_of_connect_error hconnect) with rfl | rfl
        · exact .unavailable _
        · exact .unavailable _
  | @read source client _ _ middle path reading hsource hacquired hpath hreading =>
    obtain ⟨count, shared, held, rfl⟩ := hacquired.after_eq
    rw [hreading] at houtcome
    exact (arises_of_sourceRead houtcome.symm).of_subset (List.Subset.refl _)

theorem ServedAll.arises {profiles : List String} {all : List Segment}
    {outcome : Except Failure (List PropertySource)}
    (hall : ServedAll repository query profiles state all built outcome after)
    (houtcome : outcome = .error failure) : Failure.Arises state.service failure := by
  induction hall with
  | nil => cases houtcome
  | stop hserved =>
    obtain rfl := Except.error.inj houtcome
    exact hserved.arises
  | @next _ _ _ _ _ _ _ _ _ _ outcome hserved hrest ih =>
    cases outcome with
    | ok propertySources => cases houtcome
    | error other =>
      obtain rfl := Except.error.inj houtcome
      exact (ih rfl).of_subset hserved.script_subset

/-- Every failure of a request has one of the causes. -/
theorem arises_of_findOne (repository : Repository) (query : Query) (before : ServingState)
    (hfailed : (observe (repository.findOne query) before).1.outcome = .error failure) :
    Failure.Arises before.service failure := by
  obtain ⟨built, served, middle, hall, hruns⟩ := exists_runs_findOne repository query before
  rw [hruns.observe] at hfailed
  change concluded query middle served = _ at hfailed
  unfold concluded at hfailed
  cases hclosing : Clients.closingOutcome middle.service
      (Clients.tokenClients middle.held.entries) with
  | error other =>
    rw [hclosing] at hfailed
    obtain rfl := Except.error.inj hfailed
    unfold Clients.closingOutcome at hclosing
    split at hclosing
    · cases hclosing
      exact .ordinary _ _
    · cases hclosing
  | ok closed =>
    rw [hclosing] at hfailed
    cases served with
    | ok propertySources => cases hfailed
    | error other =>
      obtain rfl := Except.error.inj hfailed
      exact hall.arises rfl

/-! ### Requests without a client -/

/-- There is no client to be had for the token. -/
def Refused (repository : Repository) (state : ServingState) (failure : Failure) : Prop :=
  repository.sourceFor state.token = .error failure ∨
    ∃ source, repository.sourceFor state.token = .ok source ∧
      state.service.admission (source.session repository.properties.region) = .error failure

theorem refused_of_undecoded {token : String} {rejection : SessionCredentials.Rejection}
    (htoken : state.token = some token) (hsent : ¬ Blank token)
    (hread : SessionCredentials.read token = .error rejection) :
    repository.Refused state (Failure.undecodableToken rejection.name) := by
  refine .inl ?_
  rw [htoken]
  refine sourceFor_of_undecoded hsent ?_
  rw [SessionCredentials.decode, hread]
  rfl

theorem Served.of_refused {profile : String} {outcome : Except Failure PropertySource}
    (hserved : Served repository query profile state outcome events built after)
    (havailable : Available repository.properties.region state)
    (hrefused : repository.Refused state failure) :
    outcome = .error failure ∧ after.held = state.held := by
  cases hserved with
  | unresolved hsource =>
    rcases hrefused with hfailed | ⟨source, hresolved, _⟩
    · exact ⟨congrArg _ (Except.error.inj (hsource.symm.trans hfailed)), rfl⟩
    · exact nomatch hsource.symm.trans hresolved
  | unconnected hsource hacquired =>
    obtain ⟨source, hresolved, hadmission⟩ :=
      hrefused.resolve_left fun hfailed => nomatch hsource.symm.trans hfailed
    obtain rfl := Except.ok.inj (hsource.symm.trans hresolved)
    have houtcome := (hacquired.outcome_eq havailable.tokenTaken).trans hadmission
    cases hacquired with
    | refused _ hprovided =>
      cases hprovided with
      | unbuilt => exact ⟨congrArg _ (Except.error.inj houtcome), rfl⟩
  | read hsource hacquired =>
    obtain ⟨source, hresolved, hadmission⟩ :=
      hrefused.resolve_left fun hfailed => nomatch hsource.symm.trans hfailed
    obtain rfl := Except.ok.inj (hsource.symm.trans hresolved)
    exact nomatch (hacquired.outcome_eq havailable.tokenTaken).trans hadmission

/-- A request fails at once when there is no client for its first token, and has none to hand back. -/
theorem findOne_of_refused {before : ServingState} {first : String} {rest : List String}
    (hprofiles : splitProfiles query.profiles = first :: rest)
    (havailable : Available repository.properties.region before)
    (hrefused : repository.Refused before failure) :
    (observe (repository.findOne query) before).1.outcome = .error failure := by
  obtain ⟨built, served, middle, hall, hruns⟩ := exists_runs_findOne repository query before
  have hstart : Available repository.properties.region { before with held := ∅ } :=
    havailable.of_same_clients rfl rfl rfl fun _ hentry => nomatch hentry
  rw [hprofiles] at hall
  obtain ⟨rfl, hheld⟩ : served = .error failure ∧ middle.held = ∅ := by
    generalize repository.segments query before = all at hall
    cases hall with
    | stop hserved =>
      obtain ⟨houtcome, hheld⟩ := hserved.of_refused hstart hrefused
      exact ⟨congrArg _ (Except.error.inj houtcome), hheld⟩
    | next hserved hrest => exact nomatch (hserved.of_refused hstart hrefused).1
  rw [hruns.observe]
  show concluded query middle _ = _
  rw [concluded, hheld]
  rfl

end Repository

end ParameterConfig
