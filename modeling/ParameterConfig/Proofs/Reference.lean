import Mathlib.Data.Set.List
import ParameterConfig.Proofs.Isolation
import ParameterConfig.Proofs.Paths

/-!
# What a request answers

The answer to a request can be told from the store alone: one property source for each profile, holding all entries below the path of the profile in the order of their names. How the store cuts them into pages, which clients are used, and what was served before leave no mark on it. `findOne_answered` says so for every state in which nothing stands in the way of a request.
-/

namespace ParameterConfig

open Serving

/-- A property source that holds what a store has below a path: all entries whose name starts with the path, entered by name, with the path taken off and dots for slashes. -/
structure PropertySource.Gathered (store : OrderedMap String String) (path : String)
    (propertySource : PropertySource) : Prop where
  name : propertySource.name = "aws:ssm:parameter:" ++ path
  source : ∃ below : List (String × String),
    (below.map fun entry => (path ++ entry.1, entry.2)).Perm
      (store.entries.filter fun entry => path.toList.isPrefixOf entry.1.toList) ∧
    (below.Pairwise fun first second => path ++ first.1 < path ++ second.1) ∧
    propertySource.source = .ofList (below.map fun entry =>
      (String.ofList (entry.1.toList.map fun c => if c = '/' then '.' else c), .string entry.2))

namespace PropertySource

theorem ofParameters_named (path : String) (given : List (String × Json)) :
    ofParameters path (given.map fun entry => { name := .string entry.1, value := entry.2 }) =
      .ok
        { name := nameOf path
          source := .ofList (given.map fun entry => (flattenName path entry.1, entry.2)) } := by
  have hpairs : (given.map fun entry => ({ name := .string entry.1, value := entry.2 } : Parameter)).mapM
      (fun parameter => (parameter.key path).map fun key => (key, parameter.value)) =
        .ok (given.map fun entry => (flattenName path entry.1, entry.2)) := by
    induction given with
    | nil => rfl
    | cons entry rest ih =>
      rw [List.map_cons, List.mapM_cons, ih]
      rfl
  unfold ofParameters
  rw [hpairs]
  rfl

theorem ofParameters_ofText (path : String) (entries : List (String × String)) :
    ofParameters path (entries.map fun entry => .ofText entry.1 entry.2) =
      .ok
        { name := nameOf path
          source := .ofList
            (entries.map fun entry => (flattenName path entry.1, .string entry.2)) } := by
  have hnamed := ofParameters_named path (entries.map fun entry => (entry.1, .string entry.2))
  rw [List.map_map, List.map_map] at hnamed
  exact hnamed

end PropertySource

namespace Service

theorem exists_append_of_mem_entriesBelow {service : Service} {path : String}
    {entry : String × String} (hentry : entry ∈ service.entriesBelow path) :
    ∃ rest : String, entry.1 = path ++ rest := by
  rw [(entriesBelow_perm service path).mem_iff, List.mem_filter] at hentry
  obtain ⟨rest, hrest⟩ := List.isPrefixOf_iff_prefix.mp hentry.2
  refine ⟨String.ofList rest, String.toList_injective ?_⟩
  rw [String.toList_append, String.toList_ofList, hrest]

/-- What the store has below a path makes the property source it should. -/
theorem gathered_entriesBelow (service : Service) (path : String) :
    PropertySource.Gathered service.store path
      { name := PropertySource.nameOf path
        source := .ofList ((service.entriesBelow path).map fun entry =>
          (flattenName path entry.1, .string entry.2)) } where
  name := rfl
  source := by
    obtain ⟨below, hbelow⟩ : ∃ below : List (String × String),
        below.map (fun entry => (path ++ entry.1, entry.2)) = service.entriesBelow path := by
      rw [← Set.mem_range, Set.range_list_map]
      intro entry hentry
      obtain ⟨rest, hrest⟩ := exists_append_of_mem_entriesBelow hentry
      exact ⟨(rest, entry.2), Prod.ext hrest.symm rfl⟩
    refine ⟨below, ?_, ?_, ?_⟩
    · rw [hbelow]
      exact entriesBelow_perm service path
    · have hsorted := entriesBelow_sorted service path
      rw [← hbelow, List.pairwise_map] at hsorted
      exact hsorted
    · refine congrArg OrderedMap.ofList ?_
      rw [← hbelow, List.map_map]
      refine List.map_congr_left fun entry _ => ?_
      rw [Function.comp_apply, flattenName_append, dotted]

end Service

namespace Repository

/-- Nothing stands in the way of a request: no replies are prepared, closing clients does not fail, every segment gets the same token, which can be decoded unless it is blank, and a client can be built for whoever the token acts as. -/
structure Unhindered (repository : Repository) (state : ServingState) : Prop where
  script : state.service.script = []
  closes : state.service.failingCloses = []
  provider : ∀ tokens, state.provider ≠ .sequence tokens
  token : ∀ token ∈ state.token, ¬ Blank token →
    ∃ credentials, SessionCredentials.decode token = .ok credentials
  client : ∀ identity, ActsAs repository.properties state.token identity →
    ∃ built, state.service.connect { identity, region := repository.properties.region } = .ok built

/-- The answer that a request has to have. -/
structure Answered (properties : Properties) (query : Query) (store : OrderedMap String String)
    (environment : Environment) : Prop where
  name : environment.name = query.application
  label : environment.label = query.label
  version : environment.version = none
  state : environment.state = none
  /-- Without a list of profiles there is the default one. -/
  noProfiles : query.profiles = none → environment.profiles = ["default"]
  /-- Otherwise there are those that give the list when they are joined by commas, and no others do. -/
  profiles : ∀ text, query.profiles = some text → ∀ profiles,
    profiles = environment.profiles ↔
      profiles ≠ [] ∧ (∀ profile ∈ profiles, ',' ∉ profile.toList) ∧
        ",".intercalate profiles = text
  /-- There is one property source for each profile, in their order. Without a prefix or a separator there is a slash in its place. -/
  propertySources : List.Forall₂
    (fun profile propertySource =>
      PropertySource.Gathered store
        ((if properties.pathPrefix.isEmpty then "/" else properties.pathPrefix) ++
          query.application ++
          (if properties.profileSeparator.isEmpty then "/" else properties.profileSeparator) ++
          profile ++ "/") propertySource)
    environment.profiles environment.propertySources

variable {repository : Repository} {query : Query} {state after : ServingState}

namespace Unhindered

theorem tokenTaken (hunhindered : Unhindered repository state) : state.tokenTaken = state :=
  ServingState.tokenTaken_eq_self hunhindered.provider

theorem exists_source (hunhindered : Unhindered repository state) :
    ∃ source, repository.sourceFor state.token = .ok source := by
  unfold sourceFor
  by_cases hblank : ∀ sent ∈ state.token, Blank sent
  · rw [sentCredentials_of_blank hblank]
    exact ⟨_, rfl⟩
  · obtain ⟨sent, htoken, hsent⟩ : ∃ sent, state.token = some sent ∧ ¬ Blank sent := by
      simpa [Option.mem_def] using hblank
    obtain ⟨credentials, hdecoded⟩ := hunhindered.token sent htoken hsent
    rw [htoken, sentCredentials_of_sent hsent, hdecoded]
    exact ⟨_, rfl⟩

theorem of_clients (hunhindered : Unhindered repository state) (count : Nat)
    (shared : OrderedMap SharedKey Client) (held : OrderedMap Source Client)
    (trace : List Event) :
    Unhindered repository
      { state with service := { state.service with built := count }, shared, held, trace } where
  script := hunhindered.script
  closes := hunhindered.closes
  provider := hunhindered.provider
  token := hunhindered.token
  client := by
    intro identity hacts
    have hbuilt := hunhindered.client identity hacts
    rw [Service.exists_connect_iff] at hbuilt ⊢
    exact hbuilt

end Unhindered

/-- In a state where nothing stands in the way, a segment gathers what the store has below its path. -/
theorem Served.gathered {profile : String} {outcome : Except Failure PropertySource}
    {events : List Event} {built : List Client}
    (hserved : Served repository query profile state outcome events built after)
    (hunhindered : Unhindered repository state) :
    ∃ propertySource, outcome = .ok propertySource ∧
      PropertySource.Gathered state.service.store
        (repository.properties.path query.application profile) propertySource ∧
      ∃ count shared held, after =
        { state with service := { state.service with built := count }, shared, held } := by
  cases hserved with
  | unresolved hsource =>
    obtain ⟨source, hfound⟩ := hunhindered.exists_source
    rw [hfound] at hsource
    cases hsource
  | unconnected hsource hacquired =>
    obtain ⟨built, hbuilt⟩ := hunhindered.client _ (actsAs_of_sourceFor hsource)
    cases hacquired with
    | refused hheld hprovided =>
      cases hprovided with
      | unbuilt hshared hconnect => exact nomatch hbuilt.symm.trans hconnect
  | @read source client _ _ middle path reading hsource hacquired hpath hreading =>
    obtain ⟨count, shared, held, rfl⟩ := hacquired.after_eq
    have hread : reading.outcome =
          .ok ((state.service.entriesBelow path).map fun entry => .ofText entry.1 entry.2) ∧
        reading.service = { state.service with built := count } := by
      rw [hreading]
      exact Service.readPages_all path hunhindered.script
    refine ⟨_, ?_, state.service.gathered_entriesBelow _, count, shared, held, ?_⟩
    · rw [hread.1, ← hpath]
      exact PropertySource.ofParameters_ofText path _
    · rw [hread.2, hunhindered.tokenTaken]

theorem ServedAll.gathered {profiles : List String} {all : List Segment}
    {outcome : Except Failure (List PropertySource)} {built : List Client}
    (hall : ServedAll repository query profiles state all built outcome after)
    (hunhindered : Unhindered repository state) :
    ∃ propertySources, outcome = .ok propertySources ∧
      List.Forall₂
        (fun profile propertySource => PropertySource.Gathered state.service.store
          (repository.properties.path query.application profile) propertySource)
        profiles propertySources := by
  induction hall with
  | nil => exact ⟨[], rfl, .nil⟩
  | stop hserved =>
    obtain ⟨propertySource, houtcome, _⟩ := hserved.gathered hunhindered
    cases houtcome
  | next hserved hrest ih =>
    obtain ⟨propertySource, houtcome, hgathered, count, shared, held, rfl⟩ :=
      hserved.gathered hunhindered
    obtain rfl := Except.ok.inj houtcome
    obtain ⟨propertySources, hlater, hothers⟩ := ih (hunhindered.of_clients count shared held _)
    exact ⟨_ :: propertySources, by rw [hlater]; rfl, .cons hgathered hothers⟩

theorem answer_answered {propertySources : List PropertySource}
    {store : OrderedMap String String}
    (hgathered : List.Forall₂
      (fun profile propertySource => PropertySource.Gathered store
        (repository.properties.path query.application profile) propertySource)
      (splitProfiles query.profiles) propertySources) :
    Answered repository.properties query store (answer query propertySources) where
  name := rfl
  label := rfl
  version := rfl
  state := rfl
  noProfiles := by
    intro hprofiles
    rw [answer, hprofiles]
    rfl
  profiles := by
    intro text hprofiles profiles
    rw [answer, hprofiles]
    constructor
    · rintro rfl
      exact ⟨splitProfiles_ne_nil text, fun _ => comma_not_mem_splitProfiles,
        intercalate_splitProfiles text⟩
    · rintro ⟨hne, hcommas, rfl⟩
      exact (splitProfiles_intercalate hne hcommas).symm
  propertySources := hgathered

theorem serveProfiles_includeOrigin (repository : Repository) (query : Query)
    (includeOrigin : Bool) (profiles : List String) :
    repository.serveProfiles { query with includeOrigin } profiles =
      repository.serveProfiles query profiles := by
  induction profiles with
  | nil => rfl
  | cons profile rest ih =>
    unfold serveProfiles
    rw [ih]
    rfl

theorem findOne_includeOrigin (repository : Repository) (query : Query) (includeOrigin : Bool) :
    repository.findOne { query with includeOrigin } = repository.findOne query := by
  unfold findOne
  dsimp only
  rw [serveProfiles_includeOrigin]
  rfl

/-- A request that nothing stands in the way of is answered as it has to be, and whether origins are asked for makes no difference to anything it does. -/
theorem findOne_answered (repository : Repository) (query : Query) (state : ServingState)
    (hunhindered : Unhindered repository state) :
    (∃ environment, (observe (repository.findOne query) state).1.outcome = .ok environment ∧
      Answered repository.properties query state.service.store environment) ∧
    ∀ includeOrigin, observe (repository.findOne { query with includeOrigin }) state =
      observe (repository.findOne query) state := by
  refine ⟨?_, fun includeOrigin => by rw [findOne_includeOrigin]⟩
  obtain ⟨outcome, events, built, after, hrequested, hruns⟩ :=
    exists_requested repository query state
  rw [hruns.observe]
  cases hrequested with
  | @intro _ middle served closed records held hall hheld hinitial hcloses =>
    obtain ⟨propertySources, hserved, hgathered⟩ :=
      hall.gathered (hunhindered.of_clients _ _ ∅ _)
    obtain ⟨script, count, hservice⟩ := hall.service_eq
    have hanswer := (hcloses (by rw [hservice]; exact hunhindered.closes)).2
    rw [hserved] at hanswer
    exact ⟨_, hanswer, answer_answered hgathered⟩

/-- Nothing stands in the way of a request to a store of two entries and pages of one. -/
theorem findOne_answered_pages :
    let state : ServingState :=
      { service := { store := .ofList [("/a/p/x", "1"), ("/a/p/x/y", "2")], pageSize := 1 }
        provider := .fixed none }
    Unhindered { properties := {} } state ∧
      ∃ environment,
        (observe (findOne { properties := {} } { application := "a", profiles := some "p,,p" })
          state).1.outcome = .ok environment ∧
        Answered {} { application := "a", profiles := some "p,,p" } state.service.store
          environment := by
  intro state
  have hunhindered : Unhindered { properties := {} } state :=
    { script := rfl
      closes := rfl
      provider := fun tokens hsequence => nomatch hsequence
      token := fun token htoken => nomatch htoken
      client := by
        intro identity hacts
        rw [Service.exists_connect_iff]
        cases identity with
        | profile name => cases name <;> exact ⟨rfl, fun hregion => nomatch hregion⟩
        | keys credentials => exact ⟨rfl, fun hregion => nomatch hregion⟩
        | ambient => exact ⟨rfl, fun hregion => nomatch hregion⟩ }
  exact ⟨hunhindered, (findOne_answered _ _ state hunhindered).1⟩

end Repository

end ParameterConfig
