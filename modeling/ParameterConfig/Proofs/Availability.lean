import ParameterConfig.Proofs.Roster

/-!
# Whether a client can be had

Whether a client can be built for a session is settled by what is known of this machine, which does not change. So whoever has a client by now, shared or held, could have it built again, and asking for a client comes to the same whether there is one already or not: `Acquired.outcome_eq` says so. `Available` is the invariant behind it, which every segment, every request and every run keeps.
-/

namespace ParameterConfig

namespace Service

def admission (service : Service) (session : Session) : Except Failure Unit :=
  match service.checkProfile session with
  | .error failure => .error failure
  | .ok () =>
    if service.requireRegion && !hasRegion session then .error (.transport .noRegion) else .ok ()

theorem connect_eq (service : Service) (session : Session) :
    service.connect session = (service.admission session).map fun _ =>
      ({ number := service.built + 1, session }, { service with built := service.built + 1 }) := by
  unfold connect admission
  cases service.checkProfile session with
  | error failure => rfl
  | ok known =>
    by_cases hregion : (service.requireRegion && !hasRegion session) = true
    · simp only [hregion, if_pos]
      rfl
    · simp only [hregion]
      rfl

theorem admission_of_connect {service after : Service} {session : Session} {client : Client}
    (hconnect : service.connect session = .ok (client, after)) :
    service.admission session = .ok () := by
  rw [connect_eq] at hconnect
  cases hadmission : service.admission session with
  | error failure => rw [hadmission] at hconnect; cases hconnect
  | ok admitted => rfl

theorem admission_of_connect_error {service : Service} {session : Session} {failure : Failure}
    (hconnect : service.connect session = .error failure) :
    service.admission session = .error failure := by
  rw [connect_eq] at hconnect
  cases hadmission : service.admission session with
  | error other => rw [hadmission] at hconnect; exact congrArg _ (Except.error.inj hconnect)
  | ok admitted => rw [hadmission] at hconnect; cases hconnect

/-- Only an unknown profile and a missing region stand in the way of a client. -/
theorem eq_or_eq_of_admission {service : Service} {session : Session} {failure : Failure}
    (hrefused : service.admission session = .error failure) :
    failure = .transport .profileNotFound ∨ failure = .transport .noRegion := by
  unfold admission at hrefused
  cases hprofile : service.checkProfile session with
  | error other =>
    rw [hprofile] at hrefused
    obtain rfl := Except.error.inj hrefused
    unfold checkProfile at hprofile
    split at hprofile
    · split at hprofile
      · cases hprofile
      · exact .inl (Except.error.inj hprofile).symm
    · cases hprofile
  | ok known =>
    rw [hprofile] at hrefused
    dsimp only at hrefused
    split at hrefused
    · exact .inr (Except.error.inj hrefused).symm
    · cases hrefused

theorem admission_congr {first second : Service} (hprofiles : first.localProfiles = second.localProfiles)
    (hregion : first.requireRegion = second.requireRegion) (session : Session) :
    first.admission session = second.admission session := by
  unfold admission checkProfile knowsProfile
  rw [hprofiles, hregion]

/-- A session on keys of its own needs no profile, so all such sessions are admitted or none. -/
theorem admission_token (service : Service) (region : Option String)
    (credentials other : SessionCredentials) :
    service.admission ((Source.token credentials).session region) =
      service.admission ((Source.token other).session region) := rfl

end Service

/-- All clients shared or held are such as can still be had. -/
structure Available (region : Option String) (state : ServingState) : Prop where
  shared : ∀ source client, source.kind ≠ .token →
    state.shared.find? (Clients.sharedKey source) = some client →
      state.service.admission (source.session region) = .ok ()
  held : ∀ entry ∈ state.held.entries, state.service.admission (entry.1.session region) = .ok ()

namespace Available

variable {region : Option String} {state after : ServingState} {source : Source}
  {events : List Event} {built : List Client}

theorem start (service : Service) (provider : TokenProvider) (bindings : Bindings) :
    Available region { service, provider, bindings } where
  shared := fun _ _ _ hfound => nomatch hfound
  held := fun _ hentry => nomatch hentry

theorem of_same_clients (havailable : Available region state)
    (hprofiles : after.service.localProfiles = state.service.localProfiles)
    (hregion : after.service.requireRegion = state.service.requireRegion)
    (hshared : after.shared = state.shared)
    (hheld : ∀ entry ∈ after.held.entries, entry ∈ state.held.entries) :
    Available region after where
  shared := by
    intro source client hkind hfound
    rw [hshared] at hfound
    rw [Service.admission_congr hprofiles hregion]
    exact havailable.shared source client hkind hfound
  held := by
    intro entry hentry
    rw [Service.admission_congr hprofiles hregion]
    exact havailable.held entry (hheld entry hentry)

theorem tokenTaken (havailable : Available region state) : Available region state.tokenTaken :=
  havailable.of_same_clients rfl rfl rfl fun _ hentry => hentry

end Available

namespace Clients

variable {region : Option String} {state after : ServingState} {source : Source}
  {outcome : Except Failure Client} {events : List Event} {built : List Client}

/-- The outcome of asking for a client tells whether one can be had, and nothing of those there are. -/
theorem Provided.outcome_eq
    (hprovided : Provided region source state outcome events built after)
    (havailable : Available region state) :
    outcome.map (fun _ => ()) = state.service.admission (source.session region) := by
  cases hprovided with
  | shared hkind hshared => exact (havailable.shared _ _ hkind hshared).symm
  | built hshared hconnect => exact (Service.admission_of_connect hconnect).symm
  | unbuilt hshared hconnect => exact (Service.admission_of_connect_error hconnect).symm

theorem Acquired.outcome_eq
    (hacquired : Acquired region source state outcome events built after)
    (havailable : Available region state) :
    outcome.map (fun _ => ()) = state.service.admission (source.session region) := by
  cases hacquired with
  | held hheld => exact (havailable.held _ (OrderedMap.mem_entries_of_find? hheld)).symm
  | provided hheld hprovided => exact hprovided.outcome_eq havailable
  | refused hheld hprovided => exact hprovided.outcome_eq havailable

theorem Provided.available
    (hprovided : Provided region source state outcome events built after)
    (havailable : Available region state) : Available region after := by
  cases hprovided with
  | shared hkind hshared => exact havailable
  | unbuilt hshared hconnect => exact havailable
  | @built client service hshared hconnect =>
    have hadmitted := Service.admission_of_connect hconnect
    rw [(Service.connect_ok hconnect).2]
    refine ⟨fun other found hother hfound => ?_, havailable.held⟩
    show state.service.admission (other.session region) = .ok ()
    dsimp only at hfound
    unfold sharedWith at hfound
    by_cases hkind : source.kind = .token
    · rw [if_pos hkind] at hfound
      exact havailable.shared other found hother hfound
    · rw [if_neg hkind] at hfound
      by_cases hkey : sharedKey source = sharedKey other
      · rw [← Source.session_eq_of_sharedKey hkind hkey]
        exact hadmitted
      · rw [OrderedMap.find?_insert_of_ne _ _ (Ne.symm hkey)] at hfound
        exact havailable.shared other found hother hfound

theorem Acquired.available
    (hacquired : Acquired region source state outcome events built after)
    (havailable : Available region state) : Available region after := by
  have houtcome := hacquired.outcome_eq havailable
  cases hacquired with
  | held hheld => exact havailable
  | refused hheld hprovided => exact hprovided.available havailable
  | @provided client _ _ middle hheld hprovided =>
    have hmiddle := hprovided.available havailable
    obtain ⟨count, shared, rfl⟩ := hprovided.after_eq
    refine ⟨hmiddle.shared, fun entry hentry => ?_⟩
    rcases (OrderedMap.mem_entries_insert_of_new hheld).mp hentry with hold | rfl
    · exact hmiddle.held entry hold
    · exact houtcome.symm

end Clients

namespace Repository

variable {repository : Repository} {query : Query} {state after : ServingState}
  {events : List Event} {built : List Client}

theorem Served.available {profile : String} {outcome : Except Failure PropertySource}
    (hserved : Served repository query profile state outcome events built after)
    (havailable : Available repository.properties.region state) :
    Available repository.properties.region after := by
  cases hserved with
  | unresolved hsource => exact havailable.tokenTaken
  | unconnected hsource hacquired => exact hacquired.available havailable.tokenTaken
  | @read source client _ _ middle path reading hsource hacquired hpath hreading =>
    have hmiddle := hacquired.available havailable.tokenTaken
    obtain ⟨script, hservice⟩ := middle.service.readPages_service path none
    rw [hreading, hservice]
    exact hmiddle.of_same_clients rfl rfl rfl fun _ hentry => hentry

theorem ServedAll.available {profiles : List String} {all : List Segment}
    {outcome : Except Failure (List PropertySource)}
    (hall : ServedAll repository query profiles state all built outcome after)
    (havailable : Available repository.properties.region state) :
    Available repository.properties.region after := by
  induction hall with
  | nil => exact havailable
  | stop hserved =>
    exact (hserved.available havailable).of_same_clients rfl rfl rfl fun _ hentry => hentry
  | next hserved hrest ih =>
    exact ih ((hserved.available havailable).of_same_clients rfl rfl rfl fun _ hentry => hentry)

theorem Requested.available {before : ServingState} {outcome : Except Failure Environment}
    (hrequested : Requested repository query before outcome events built after)
    (havailable : Available repository.properties.region before) :
    Available repository.properties.region after := by
  cases hrequested with
  | intro records held hall hheld hinitial hcloses =>
    have hstart : Available repository.properties.region { before with held := ∅ } :=
      havailable.of_same_clients rfl rfl rfl fun _ hentry => nomatch hentry
    exact (hall.available hstart).of_same_clients rfl rfl rfl hheld

theorem run_available (havailable : Available repository.properties.region state)
    (steps : List Step) :
    Available repository.properties.region (repository.run steps state).2 := by
  refine run_invariant (Available repository.properties.region)
    (fun state trace hstate => ?_) (fun state store script bindings hstate => ?_)
    (fun query state outcome events built after hrequested hstate => ?_) havailable steps
  · exact hstate.of_same_clients rfl rfl rfl fun _ hentry => hentry
  · exact hstate.of_same_clients rfl rfl rfl fun _ hentry => hentry
  · exact hrequested.available hstate

end Repository
end ParameterConfig
