import ParameterConfig.Proofs.Credentials
import ParameterConfig.Proofs.Isolation
import ParameterConfig.Proofs.Shown

/-!
# Secrets that are not told

Two runs are held side by side that differ in what must not be told: the values in the store, and the tokens, of which only the masked key ids are the same. They may build and share different clients, but they make the same requests, log the same records, and fail with the same failures; what they answer differs in nothing but values, which is what `SecretsKept` says. The comparison is made without clients, by `showRequest`, and carried over to the runs.
-/

namespace ParameterConfig

open Serving

/-! ### Tokens that cannot be told apart -/

/-- Tokens that may stand for each other: the same token, tokens of credentials whose masked key ids are the same, or tokens that are refused for the same reason. -/
inductive TokenAlike : Option String → Option String → Prop
  | same (token : Option String) : TokenAlike token token
  | decoded {first second : String} {credentials others : SessionCredentials}
      (hfirst : SessionCredentials.read first = .ok credentials)
      (hsecond : SessionCredentials.read second = .ok others)
      (hmasked : masked credentials.accessKeyId = masked others.accessKeyId) :
      TokenAlike (some first) (some second)
  | rejected {first second : String} {rejection : SessionCredentials.Rejection}
      (hfirst : SessionCredentials.read first = .error rejection)
      (hsecond : SessionCredentials.read second = .error rejection)
      (hgiven : Text.trim first.toList ≠ []) (hgivenSecond : Text.trim second.toList ≠ []) :
      TokenAlike (some first) (some second)

namespace Repository

/-- Credentials of which no more is told than that these two are the same. -/
def CredentialsAlike (credentials others : SessionCredentials) : Prop :=
  masked credentials.accessKeyId = masked others.accessKeyId

theorem sentCredentials_alike {token other : Option String} (htoken : TokenAlike token other) :
    OutcomeAlike (Option.Rel CredentialsAlike) (sentCredentials token) (sentCredentials other) := by
  cases htoken with
  | same =>
    refine .refl (fun sent => ?_) _
    cases sent with
    | none => exact .none
    | some credentials => exact .some rfl
  | decoded hfirst hsecond hmasked =>
    rw [sentCredentials_of_read hfirst, sentCredentials_of_read hsecond]
    exact .ok (.some hmasked)
  | @rejected first second _ hfirst hsecond hgiven hgivenSecond =>
    have hsent : ¬ Blank first := mt Text.trim_eq_nil_iff.mpr hgiven
    have hsentSecond : ¬ Blank second := mt Text.trim_eq_nil_iff.mpr hgivenSecond
    rw [sentCredentials_of_sent hsent, sentCredentials_of_sent hsentSecond]
    unfold SessionCredentials.decode
    rw [hfirst, hsecond]
    exact .error _

theorem tokenRecords_alike {token other : Option String} (htoken : TokenAlike token other) :
    tokenRecords token = tokenRecords other := by
  have hsent := sentCredentials_alike htoken
  unfold tokenRecords
  generalize sentCredentials token = sent at hsent
  generalize sentCredentials other = otherSent at hsent
  cases hsent with
  | error failure => rfl
  | ok hsent =>
    cases hsent with
    | none => rfl
    | some hmasked =>
      dsimp only [credentialsRecord]
      rw [hmasked]

end Repository

/-! ### Sources -/

inductive SourceAlike : Source → Source → Prop
  | same (source : Source) : SourceAlike source source
  | token (credentials others : SessionCredentials) :
      SourceAlike (.token credentials) (.token others)

theorem SourceAlike.kind_eq {source other : Source} (hsource : SourceAlike source other) :
    source.kind = other.kind := by
  cases hsource <;> rfl

theorem Repository.sourceFor_alike (repository : Repository) {token other : Option String}
    (htoken : TokenAlike token other) :
    OutcomeAlike SourceAlike (repository.sourceFor token) (repository.sourceFor other) := by
  refine (sentCredentials_alike htoken).map fun sent otherSent hsent => ?_
  cases hsent with
  | none => exact .same _
  | some hmasked => exact .token _ _

/-! ### Circumstances -/

/-- Two services that differ in the values of their stores, and in how many clients they have built. -/
structure ServiceAlike (like : String → String → Prop) (first second : Service) : Prop where
  store : EntriesAlike like first.store.entries second.store.entries
  pageSize : first.pageSize = second.pageSize
  script : first.script = second.script
  localProfiles : first.localProfiles = second.localProfiles
  requireRegion : first.requireRegion = second.requireRegion

namespace ServiceAlike

variable {like : String → String → Prop} {first second : Service}

theorem below (hservice : ServiceAlike like first second) (path : String) :
    Service.AlikeBelow like path first second where
  pageSize := hservice.pageSize
  script := hservice.script
  entries := Service.entriesBelow_alike hservice.store path

theorem admission_eq (hservice : ServiceAlike like first second) {source other : Source}
    (hsource : SourceAlike source other) (region : Option String) :
    first.admission (source.session region) = second.admission (other.session region) := by
  rw [Service.admission_congr hservice.localProfiles hservice.requireRegion]
  cases hsource with
  | same => rfl
  | token credentials others => exact second.admission_token region credentials others

theorem readPages (hservice : ServiceAlike like first second) (path : String) :
    ServiceAlike like (first.readPages path none).service (second.readPages path none).service := by
  obtain ⟨script, hfirst⟩ := first.readPages_service path none
  obtain ⟨other, hsecond⟩ := second.readPages_service path none
  obtain ⟨_, _, hscript⟩ := Service.readPages_alike (hservice.below path) none
  rw [hfirst, hsecond] at hscript ⊢
  exact { hservice with script := hscript }

end ServiceAlike

/-- Headers that may stand for each other where tokens are taken from the header of this name. -/
def HeadersAlike (header : String) (first second : Option Headers) : Prop :=
  TokenAlike (Bindings.value? [first] header) (Bindings.value? [second] header)

/-- Providers of tokens that may stand for each other; if tokens come from a header, it is the one of this name. -/
inductive ProviderAlike (header : String) : TokenProvider → TokenProvider → Prop
  | fixed {token other : Option String} (htoken : TokenAlike token other) :
      ProviderAlike header (.fixed token) (.fixed other)
  | header : ProviderAlike header (.header header) (.header header)
  | sequence {tokens others : List (Option String)}
      (htokens : List.Forall₂ TokenAlike tokens others) :
      ProviderAlike header (.sequence tokens) (.sequence others)

theorem ProviderAlike.next {header : String} {provider other : TokenProvider}
    {headers otherHeaders : Option Headers} (hprovider : ProviderAlike header provider other)
    (hheaders : HeadersAlike header headers otherHeaders) :
    TokenAlike (provider.next [headers]).1 (other.next [otherHeaders]).1 ∧
      ProviderAlike header (provider.next [headers]).2 (other.next [otherHeaders]).2 := by
  cases hprovider with
  | fixed htoken => exact ⟨htoken, .fixed htoken⟩
  | header => exact ⟨hheaders, .header⟩
  | sequence htokens =>
    cases htokens with
    | nil => exact ⟨.same none, .sequence .nil⟩
    | cons htoken hrest => exact ⟨htoken, .sequence hrest⟩

structure CircumstancesAlike (header : String) (like : String → String → Prop)
    (given other : Circumstances) : Prop where
  service : ServiceAlike like given.service other.service
  provider : ProviderAlike header given.provider other.provider
  headers : HeadersAlike header given.headers other.headers

namespace CircumstancesAlike

variable {header : String} {like : String → String → Prop} {given other : Circumstances}

theorem token (hgiven : CircumstancesAlike header like given other) :
    TokenAlike given.token other.token :=
  (hgiven.provider.next hgiven.headers).1

theorem tokenTaken (hgiven : CircumstancesAlike header like given other) :
    CircumstancesAlike header like given.tokenTaken other.tokenTaken :=
  { hgiven with provider := (hgiven.provider.next hgiven.headers).2 }

end CircumstancesAlike

/-! ### Readings -/

section

variable {like : String → String → Prop} {outcome otherOutcome : Except Failure (List Parameter)}

theorem Repository.sourceRead_alike
    (houtcome : OutcomeAlike (List.Forall₂ (ParameterAlike like)) outcome otherOutcome)
    (path : String) :
    OutcomeAlike (PropertySourceAlike like) (sourceRead path outcome)
      (sourceRead path otherOutcome) := by
  cases houtcome with
  | error failure => cases failure <;> exact .error _
  | ok hparameters => exact ofParameters_alike hparameters path

variable {reading other : Reading}

/-- How many parameters there are is told, and no more of them. -/
theorem Fetch.records_alike (hrequests : reading.requests = other.requests)
    (houtcome : OutcomeAlike (List.Forall₂ (ParameterAlike like)) reading.outcome other.outcome)
    (path : String) : records path reading = records path other := by
  unfold records
  rw [hrequests]
  generalize reading.outcome = outcome at houtcome
  generalize other.outcome = otherOutcome at houtcome
  cases houtcome with
  | error failure => rfl
  | ok hparameters =>
    dsimp only
    rw [hparameters.length_eq]

theorem Repository.readingRecords_alike (hrequests : reading.requests = other.requests)
    (houtcome : OutcomeAlike (List.Forall₂ (ParameterAlike like)) reading.outcome other.outcome)
    {source otherSource : Source} (hsource : SourceAlike source otherSource) (query : Query)
    (path : String) :
    readingRecords query path source reading = readingRecords query path otherSource other := by
  unfold readingRecords
  rw [Fetch.records_alike hrequests houtcome path]
  have hread := sourceRead_alike houtcome path
  generalize sourceRead path reading.outcome = read at hread
  generalize sourceRead path other.outcome = otherRead at hread
  cases hread with
  | error failure => rfl
  | ok hpropertySource =>
    dsimp only [sourceRecord, OrderedMap.size]
    rw [hsource.kind_eq, hpropertySource.2.length_eq]

end

/-! ### Requests -/

/-- What is shown is the same but for what may stand for each other in the results. -/
structure ShownAlike {α : Type} (alike : α → α → Prop) (first second : Shown α) : Prop where
  outcome : OutcomeAlike alike first.outcome second.outcome
  requests : first.requests = second.requests
  records : first.records = second.records

namespace Repository

variable (repository : Repository) {header : String} {like : String → String → Prop}

theorem showProfile_alike {given other : Circumstances}
    (hgiven : CircumstancesAlike header like given other) (query : Query) (profile : String) :
    ShownAlike (PropertySourceAlike like) (showProfile repository query profile given).1
        (showProfile repository query profile other).1 ∧
      CircumstancesAlike header like (showProfile repository query profile given).2
        (showProfile repository query profile other).2 := by
  have hsource := repository.sourceFor_alike hgiven.token
  have hnext := hgiven.tokenTaken
  unfold showProfile
  rw [← tokenRecords_alike hgiven.token]
  generalize repository.sourceFor given.token = found at hsource
  generalize repository.sourceFor other.token = otherFound at hsource
  cases hsource with
  | error failure => exact ⟨⟨.error failure, rfl, rfl⟩, hnext⟩
  | @ok source otherSource hsource =>
    dsimp only
    rw [← hgiven.service.admission_eq hsource]
    cases given.service.admission (source.session repository.properties.region) with
    | error failure => exact ⟨⟨.error failure, rfl, rfl⟩, hnext⟩
    | ok admitted =>
      have hbelow := hgiven.service.below (repository.properties.path query.application profile)
      obtain ⟨hrequests, houtcome, _⟩ := Service.readPages_alike hbelow none
      refine ⟨⟨sourceRead_alike houtcome _, hrequests, ?_⟩,
        { hnext with service := hgiven.service.readPages _ }⟩
      dsimp only
      rw [readingRecords_alike hrequests houtcome hsource]

theorem showProfiles_alike {given other : Circumstances}
    (hgiven : CircumstancesAlike header like given other) (query : Query)
    (profiles : List String) :
    ShownAlike (List.Forall₂ (PropertySourceAlike like))
        (showProfiles repository query profiles given).1
        (showProfiles repository query profiles other).1 ∧
      CircumstancesAlike header like (showProfiles repository query profiles given).2
        (showProfiles repository query profiles other).2 := by
  induction profiles generalizing given other with
  | nil => exact ⟨⟨.ok .nil, rfl, rfl⟩, hgiven⟩
  | cons profile rest ih =>
    obtain ⟨⟨houtcome, hrequests, hrecords⟩, hafter⟩ :=
      showProfile_alike repository hgiven query profile
    unfold showProfiles
    dsimp only
    rw [← hrequests, ← hrecords]
    generalize (showProfile repository query profile given).1.outcome = outcome at houtcome
    generalize (showProfile repository query profile other).1.outcome = otherOutcome at houtcome
    cases houtcome with
    | error failure => exact ⟨⟨.error failure, rfl, rfl⟩, hafter⟩
    | ok hpropertySource =>
      obtain ⟨⟨hlater, hmore, hentered⟩, hlast⟩ := ih hafter
      refine ⟨⟨hlater.map fun _ _ hrest => .cons hpropertySource hrest, ?_, ?_⟩, hlast⟩
      · dsimp only
        rw [hmore]
      · dsimp only
        rw [hentered]

theorem endingRecords_alike {outcome other : Except Failure Environment}
    (houtcome : OutcomeAlike (EnvironmentAlike like) outcome other) (query : Query) :
    endingRecords query outcome = endingRecords query other := by
  cases houtcome <;> rfl

theorem showRequest_alike {given other : Circumstances}
    (hgiven : CircumstancesAlike header like given other) (query : Query) :
    ShownAlike (EnvironmentAlike like) (showRequest repository query given).1
        (showRequest repository query other).1 ∧
      CircumstancesAlike header like (showRequest repository query given).2
        (showRequest repository query other).2 := by
  obtain ⟨⟨houtcome, hrequests, hrecords⟩, hafter⟩ :=
    showProfiles_alike repository hgiven query (splitProfiles query.profiles)
  have hanswer : OutcomeAlike (EnvironmentAlike like)
      (showRequest repository query given).1.outcome
      (showRequest repository query other).1.outcome :=
    houtcome.map fun _ _ hsources => ⟨rfl, rfl, rfl, rfl, rfl, hsources⟩
  exact ⟨⟨hanswer, hrequests, congrArg₂ _ hrecords (endingRecords_alike hanswer query)⟩, hafter⟩

/-! ### Runs -/

inductive StepAlike (header : String) (like : String → String → Prop) : Step → Step → Prop
  | findOne (query : Query) : StepAlike header like (.findOne query) (.findOne query)
  | put (name : String) {value other : String} (hvalue : like value other) :
      StepAlike header like (.put name value) (.put name other)
  | delete (name : String) : StepAlike header like (.delete name) (.delete name)
  | prepare (replies : List PreparedReply) :
      StepAlike header like (.prepare replies) (.prepare replies)
  | bind {headers otherHeaders : Option Headers}
      (hheaders : HeadersAlike header headers otherHeaders) :
      StepAlike header like (.bind headers) (.bind otherHeaders)
  | unbind : StepAlike header like .unbind .unbind

/-- Two states in which a repository cannot be told from the other by what is shown. Their clients may differ. -/
structure StatesAlike (region : Option String) (header : String) (like : String → String → Prop)
    (state other : ServingState) : Prop where
  service : ServiceAlike like state.service other.service
  provider : ProviderAlike header state.provider other.provider
  bindings : List.Forall₂ (HeadersAlike header) state.bindings other.bindings
  available : Available region state
  availableOther : Available region other
  closes : state.service.failingCloses = []
  closesOther : other.service.failingCloses = []

namespace StatesAlike

variable {repository : Repository} {header : String} {like : String → String → Prop}
  {region : Option String} {state other : ServingState}

theorem circumstances (hstates : StatesAlike region header like state other) :
    CircumstancesAlike header like state.circumstances other.circumstances where
  service := { hstates.service with }
  provider := hstates.provider
  headers := by
    have hbindings := hstates.bindings
    unfold ServingState.circumstances
    generalize state.bindings = bindings at hbindings
    generalize other.bindings = others at hbindings
    cases hbindings with
    | nil => exact .same _
    | cons hheaders hrest => exact hheaders

theorem traced (hstates : StatesAlike region header like state other)
    (trace otherTrace : List Event) :
    StatesAlike region header like { state with trace } { other with trace := otherTrace } :=
  { hstates with
    available := hstates.available.of_same_clients rfl rfl rfl fun _ hentry => hentry
    availableOther := hstates.availableOther.of_same_clients rfl rfl rfl fun _ hentry => hentry }

theorem between (hstates : StatesAlike region header like state other)
    {store otherStore : OrderedMap String String} {script otherScript : List PreparedReply}
    {bindings otherBindings : Bindings} (hscript : script = otherScript)
    (hstore : EntriesAlike like store.entries otherStore.entries)
    (hbindings : List.Forall₂ (HeadersAlike header) bindings otherBindings) :
    StatesAlike region header like
      { state with service := { state.service with store, script }, bindings }
      { other with
        service := { other.service with store := otherStore, script := otherScript }
        bindings := otherBindings } :=
  { hstates with
    service := { hstates.service with store := hstore, script := hscript }
    bindings := hbindings
    available := hstates.available.of_same_clients rfl rfl rfl fun _ hentry => hentry
    availableOther := hstates.availableOther.of_same_clients rfl rfl rfl fun _ hentry => hentry }

/-- Requests show the same but for values, and leave states that are alike. -/
theorem requested (hstates : StatesAlike repository.properties.region header like state other)
    {query : Query} {after otherAfter : ServingState}
    {outcome otherOutcome : Except Failure Environment} {events otherEvents : List Event}
    {built otherBuilt : List Client}
    (hrequested : Requested repository query state outcome events built after)
    (hother : Requested repository query other otherOutcome otherEvents otherBuilt otherAfter) :
    ShownAlike (EnvironmentAlike like)
        ⟨outcome, Event.requests events, Event.records events⟩
        ⟨otherOutcome, Event.requests otherEvents, Event.records otherEvents⟩ ∧
      StatesAlike repository.properties.region header like after otherAfter := by
  obtain ⟨hshown, hafter⟩ := showRequest_alike repository hstates.circumstances query
  rw [hrequested.shown_eq hstates.available hstates.closes,
    hother.shown_eq hstates.availableOther hstates.closesOther] at hshown hafter
  obtain ⟨_, _, hservice⟩ := hrequested.service_eq
  obtain ⟨_, _, hserviceOther⟩ := hother.service_eq
  refine ⟨hshown,
    { service := { hafter.service with }
      provider := hafter.provider
      bindings := ?_
      available := hrequested.available hstates.available
      availableOther := hother.available hstates.availableOther
      closes := ?_
      closesOther := ?_ }⟩
  · rw [hrequested.bindings_eq, hother.bindings_eq]
    exact hstates.bindings
  · rw [hservice]
    exact hstates.closes
  · rw [hserviceOther]
    exact hstates.closesOther

theorem quietly {action otherAction : Serving (Option Environment)}
    {after otherAfter : ServingState} (hruns : Runs action state (.ok none) [] after)
    (hother : Runs otherAction other (.ok none) [] otherAfter)
    (hafter : StatesAlike region header like after otherAfter) :
    ShownAlike (Option.Rel (EnvironmentAlike like)) (observe action state).1.shown
        (observe otherAction other).1.shown ∧
      StatesAlike region header like (observe action state).2 (observe otherAction other).2 := by
  rw [hruns.observe, hother.observe]
  exact ⟨⟨.ok .none, rfl, rfl⟩, hafter.traced [] []⟩

theorem performed (hstates : StatesAlike repository.properties.region header like state other)
    {step otherStep : Step} (hstep : StepAlike header like step otherStep) :
    ShownAlike (Option.Rel (EnvironmentAlike like))
        (observe (step.perform repository) state).1.shown
        (observe (otherStep.perform repository) other).1.shown ∧
      StatesAlike repository.properties.region header like
        (observe (step.perform repository) state).2
        (observe (otherStep.perform repository) other).2 := by
  have hstore := hstates.service.store
  have hscript := hstates.service.script
  have hbindings := hstates.bindings
  unfold Step.perform
  cases hstep with
  | findOne query =>
    obtain ⟨_, events, _, _, hrequested, hruns⟩ := exists_requested repository query state
    obtain ⟨_, otherEvents, _, _, hother, hrunsOther⟩ := exists_requested repository query other
    obtain ⟨hshown, hafter⟩ := hstates.requested hrequested hother
    rw [(hruns.map some).observe, (hrunsOther.map some).observe]
    refine ⟨{ hshown with outcome := ?_ }, hafter.traced events otherEvents⟩
    exact hshown.outcome.map fun _ _ henvironment => .some henvironment
  | put name hvalue =>
    exact quietly (runs_changeService state) (runs_changeService other)
      (hstates.between hscript (OrderedMap.insert_alike hstore name hvalue) hbindings)
  | delete name =>
    exact quietly (runs_changeService state) (runs_changeService other)
      (hstates.between hscript (OrderedMap.erase_alike hstore name) hbindings)
  | prepare replies =>
    exact quietly (runs_changeService state) (runs_changeService other)
      (hstates.between (congrArg (· ++ replies) hscript) hstore hbindings)
  | bind hheaders =>
    exact quietly (runs_changeBindings state) (runs_changeBindings other)
      (hstates.between hscript hstore (.cons hheaders hbindings))
  | unbind =>
    have hrest := List.forall₂_drop 1 hbindings
    rw [List.drop_one, List.drop_one] at hrest
    exact quietly (runs_changeBindings state) (runs_changeBindings other)
      (hstates.between hscript hstore hrest)

theorem run (hstates : StatesAlike repository.properties.region header like state other)
    {steps otherSteps : List Step} (hsteps : List.Forall₂ (StepAlike header like) steps otherSteps) :
    List.Forall₂
      (fun first second =>
        ShownAlike (Option.Rel (EnvironmentAlike like)) first.shown second.shown)
      (repository.run steps state).1 (repository.run otherSteps other).1 := by
  induction hsteps generalizing state other with
  | nil => exact .nil
  | cons hstep hrest ih =>
    obtain ⟨hshown, hafter⟩ := hstates.performed hstep
    rw [run_cons_observed, run_cons_observed]
    exact .cons hshown (ih hafter)

end StatesAlike

/-- Two runs of a repository tell nothing of what differs between them but values in what they answer. -/
structure SecretsKept (like : String → String → Prop)
    (first second : List (Observed (Option Environment))) : Prop where
  /-- Step by step, they make the same requests, log the same records, and fail with the same failures. -/
  shown : List.Forall₂
    (fun observed other =>
      ShownAlike (Option.Rel (EnvironmentAlike like)) observed.shown other.shown)
    first second
  /-- Where no values differ they answer the same. -/
  answers : (∀ value other, like value other → value = other) →
    first.map Observed.outcome = second.map Observed.outcome

/-- Values in the store, and all of a token but its masked key id, are kept secret by every run. -/
theorem run_tells_no_secrets (repository : Repository) (header : String)
    (like : String → String → Prop) (service otherService : Service)
    (provider otherProvider : TokenProvider) (bindings otherBindings : Bindings)
    (steps otherSteps : List Step)
    (hservice : ServiceAlike like service otherService)
    (hprovider : ProviderAlike header provider otherProvider)
    (hbindings : List.Forall₂ (HeadersAlike header) bindings otherBindings)
    (hsteps : List.Forall₂ (StepAlike header like) steps otherSteps)
    (hcloses : service.failingCloses = []) (hclosesOther : otherService.failingCloses = []) :
    SecretsKept like (repository.run steps { service, provider, bindings }).1
      (repository.run otherSteps
        { service := otherService, provider := otherProvider, bindings := otherBindings }).1 := by
  have hstart : StatesAlike repository.properties.region header like
      { service, provider, bindings }
      { service := otherService, provider := otherProvider, bindings := otherBindings } :=
    { service := hservice
      provider := hprovider
      bindings := hbindings
      available := .start service provider bindings
      availableOther := .start otherService otherProvider otherBindings
      closes := hcloses
      closesOther := hclosesOther }
  have hshown := hstart.run hsteps
  refine ⟨hshown, fun hsame => ?_⟩
  rw [← List.forall₂_eq_eq_eq, List.forall₂_map_left_iff, List.forall₂_map_right_iff]
  refine hshown.imp fun observed other halike => ?_
  refine halike.outcome.eq_of_same fun result otherResult hresult => ?_
  cases hresult with
  | none => rfl
  | some henvironment => rw [henvironment.eq_of_same hsame]

/-- Other credentials of the same masked key id, other values, and one request that is cut short. -/
theorem run_tells_no_secrets_interrupted :
    let credentials : SessionCredentials := ⟨"AKIA1", "s", "t"⟩
    let others : SessionCredentials := ⟨"AKIA2", "u", "v"⟩
    let query : Query := { application := "a", profiles := some "p,q" }
    let steps := fun value : String =>
      [Step.put "/a/p/y" value, .findOne query, .prepare [.fromStore, .failure .interrupted],
        .findOne query]
    let observed := fun (value : String) (token : String) =>
      (run { properties := {} } (steps value)
        { service := { store := .ofList [("/a/p/x", value)] }, provider := .fixed (some token) }).1
    SecretsKept (fun _ _ => True) (observed "1" credentials.encode)
      (observed "2" others.encode) := by
  intro credentials others query steps observed
  have hprovider : ProviderAlike "" (.fixed (some credentials.encode))
      (.fixed (some others.encode)) :=
    .fixed (.decoded (SessionCredentials.read_encode credentials)
      (SessionCredentials.read_encode others) (by decide))
  have hsteps : List.Forall₂ (StepAlike "" fun _ _ => True) (steps "1") (steps "2") :=
    .cons (.put _ trivial) (.cons (.findOne _) (.cons (.prepare _) (.cons (.findOne _) .nil)))
  exact run_tells_no_secrets { properties := {} } "" (fun _ _ => True)
    { store := .ofList [("/a/p/x", "1")] } { store := .ofList [("/a/p/x", "2")] } _ _ [] [] _ _
    ⟨.cons ⟨rfl, trivial⟩ .nil, rfl, rfl, rfl, rfl⟩ hprovider .nil hsteps rfl rfl

end Repository
end ParameterConfig
