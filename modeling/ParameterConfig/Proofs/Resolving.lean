import ParameterConfig.CommandLine
import ParameterConfig.Proofs.Closing
import ParameterConfig.Proofs.Endings
import ParameterConfig.Proofs.Paths
import ParameterConfig.Proofs.Values

/-!
# The resolving command

The resolving command asks the library for one environment and ends with a status. It writes the environment and nothing else when there is one that can be written, and nothing at all otherwise, whatever the reason; the reason shows in the status. `resolve_agrees` says so for all words, settings and services.
-/

namespace ParameterConfig

open Serving

/-! ### Endings -/

namespace Failure

variable {log : Log.Settings}

/-- Nothing keeps the failure from being logged and told: no detail has a name that the record needs for itself, none stands where the console has room for text only, and no number is too long. -/
def Tellable (log : Log.Settings) : Failure → Prop
  | .library error =>
    Ending.NamesFree error ∧ ¬ Ending.Misplaced log error ∧
      ∀ entry ∈ error.details.entries, ¬ entry.2.TooLong
  | .refused code => ¬ code.TooLong
  | _ => True

def exitStatus : Failure → Int
  | .library error => error.kind.exitCode
  | .interrupted => Ending.interrupted
  | _ => Ending.crashed

theorem exitStatus_of_configuration {error : LibraryError}
    (hkind : error.kind = .configuration ∨ error.kind = .credentialParse) :
    (Failure.library error).exitStatus = 10 := by
  rcases hkind with hkind | hkind <;> simp [exitStatus, hkind, ErrorKind.exitCode]

theorem exitStatus_of_provider {error : LibraryError}
    (hkind : error.kind = .provider ∨ error.kind = .storeFetch) :
    (Failure.library error).exitStatus = 11 := by
  rcases hkind with hkind | hkind <;> simp [exitStatus, hkind, ErrorKind.exitCode]

theorem exitStatus_of_general {failure : Failure} (hnot : failure ≠ .interrupted)
    (hgeneral : ∀ error, failure = .library error → error.kind = .general) :
    failure.exitStatus = 127 := by
  cases failure with
  | library error => simp [exitStatus, hgeneral error rfl, ErrorKind.exitCode]
  | interrupted => exact absurd rfl hnot
  | _ => rfl

/-- An error with few and short details, of which none is named like a part of the record, can be told. -/
theorem tellable_of_names {error : LibraryError}
    (hnames : ∀ name ∈ error.details.keys,
      name ∉ ["error_type", "exit_code", "event", "self", "method_name", "stack", "exception"])
    (hshort : ∀ entry ∈ error.details.entries, ¬ entry.2.TooLong) :
    (Failure.library error).Tellable log := by
  refine ⟨fun name hname hmem => hnames name hmem ?_, fun hmisplaced => ?_, hshort⟩
  · exact List.mem_append_left ["stack", "exception"] hname
  · obtain ⟨entry, hmem, hbelow, _⟩ := hmisplaced.below
    refine hnames entry.1 (List.mem_map_of_mem hmem) ?_
    rcases hbelow with hname | ⟨hname, _⟩ <;> rw [hname] <;> decide

theorem tellable_fetchFailed (path : String) {code : Json} (hcode : ¬ code.TooLong) :
    (fetchFailed path code).Tellable log := by
  refine tellable_of_names (by decide : ∀ name ∈ ["path", "error_code"], name ∉ _) ?_
  exact List.forall_mem_cons.mpr
    ⟨Json.not_tooLong_string path, List.forall_mem_singleton.mpr hcode⟩

/-- The errors that the library makes up itself can be told. -/
theorem Arises.tellable {service : Service} {failure : Failure} (harises : Arises service failure)
    (hprepared : ∀ failure, .failure failure ∈ service.script → failure.Tellable log) :
    failure.Tellable log := by
  cases harises with
  | prepared hmem => exact hprepared failure hmem
  | unavailable fault => trivial
  | undecodable rejection =>
    refine tellable_of_names (by decide : ∀ name ∈ ["error"], name ∉ _) ?_
    exact List.forall_mem_singleton.mpr (Json.not_tooLong_string rejection.name)
  | refused path hmem => exact tellable_fetchFailed path (hprepared _ hmem)
  | unreached path fault => exact tellable_fetchFailed path (Json.not_tooLong_string fault.name)
  | ordinary fault message => trivial

end Failure

namespace Ending

variable {log : Log.Settings} {failure : Failure}

theorem Follows.status_eq {ending : Ending} (hfollows : Follows (.error failure) ending) :
    ending.status = failure.exitStatus := by
  cases hfollows with
  | @failed error status text fields hstatus htext hfields =>
    cases hkind : error.kind <;>
      simp_all [Failure.exitStatus, ErrorKind.exitCode]
  | interrupted => rfl
  | crashed hlibrary hinterrupted hfields =>
    cases failure with
    | library error => exact absurd rfl (hlibrary error)
    | interrupted => exact absurd rfl hinterrupted
    | _ => rfl

theorem exists_of_tellable (htellable : failure.Tellable log) :
    ∃ ending, Ending.of log (.error failure) = .ok ending ∧ ending.status = failure.exitStatus := by
  rcases leaves_or_follows log (.error failure) with ⟨_, hleaves⟩ | ⟨ending, hof, hfollows⟩
  · exfalso
    cases hleaves with
    | repeated hname =>
      obtain ⟨name, hname, hmem⟩ := hname
      exact htellable.1 name (List.mem_append_left ["event", "self", "method_name"] hname) hmem
    | taken hown hname =>
      obtain ⟨name, hname, hmem⟩ := hname
      exact htellable.1 name (List.mem_append_right ["error_type", "exit_code"] hname) hmem
    | misplaced hfree hmisplaced => exact htellable.2.1 hmisplaced
    | tooLong hfree hplaced hlong =>
      obtain ⟨entry, hmem, hlong⟩ := hlong
      exact htellable.2.2 entry hmem hlong
  · exact ⟨ending, hof, hfollows.status_eq⟩

end Ending

namespace CommandLine

namespace Run

theorem exists_withLog_error {log : Log.Settings} (time : String) {failure : Failure}
    (trace : List Event) (htellable : failure.Tellable log) :
    ∃ run, withLog log time (.error failure) trace = .ok run ∧
      run.status = .returned failure.exitStatus ∧ run.output = "" ∧ run.trace = trace := by
  obtain ⟨ending, hending, hstatus⟩ := Ending.exists_of_tellable htellable
  simp only [withLog, Except.map, hending]
  exact ⟨_, rfl, congrArg _ hstatus, rfl, rfl⟩

end Run

/-! ### Asking the library -/

variable {surroundings : Surroundings} {arguments : ResolveArguments} {settings : Settings}
  {backend : String} {properties : Properties}

/-- What is observed of the library when it is asked for the environment: the backend builds a repository from the properties, and the repository is asked with the token at hand. -/
def asked (surroundings : Surroundings) (arguments : ResolveArguments) (backend : String)
    (properties : Properties) : Observed Environment :=
  match surroundings.registry.create backend properties with
  | .error failure => { outcome := .error failure, events := [] }
  | .ok repository =>
    (observe (findEnvironment arguments repository)
      { service := surroundings.service, provider := .fixed arguments.token }).1

theorem resolveOutcome_eq (surroundings : Surroundings) (arguments : ResolveArguments)
    (settings : Settings) :
    let observed := asked surroundings arguments settings.backend (arguments.properties settings)
    resolveOutcome surroundings arguments settings =
      (observed.outcome.bind printed, observed.events) := by
  unfold resolveOutcome asked
  cases surroundings.registry.create settings.backend (arguments.properties settings) with
  | error failure => rfl
  | ok repository => rfl

theorem printed_of_short {environment : Environment} (hshort : ¬ environment.toJson.TooLong) :
    printed environment = .ok (0, environment.toJson.indented ++ "\n") := by
  rw [printed, Failure.checkWritable_of_not_tooLong hshort]
  rfl

theorem printed_of_tooLong {environment : Environment} (hlong : environment.toJson.TooLong) :
    printed environment = .error Failure.numberTooLong := by
  rw [printed, Failure.checkWritable_of_tooLong hlong]
  rfl

theorem tellable_of_printed {log : Log.Settings} {outcome : Except Failure Environment}
    {failure : Failure} (htellable : ∀ failure, outcome = .error failure → failure.Tellable log)
    (hprinted : outcome.bind printed = .error failure) : failure.Tellable log := by
  cases outcome with
  | error other =>
    obtain rfl := Except.error.inj hprinted
    exact htellable other rfl
  | ok environment =>
    by_cases hlong : environment.toJson.TooLong
    · obtain rfl := Except.error.inj ((printed_of_tooLong hlong).symm.trans hprinted)
      trivial
    · exact nomatch (printed_of_short hlong).symm.trans hprinted

/-- The command ends as what the library answers can be printed, as long as failures can be told. -/
theorem exists_resolve {threshold : Int} {observed : Observed Environment}
    (hload : Settings.load surroundings.origins = .valid settings)
    (hlevel : Log.threshold (.string settings.logLevel) = .ok threshold)
    (hasked : asked surroundings arguments settings.backend (arguments.properties settings) =
      observed)
    (htellable : ∀ failure, observed.outcome = .error failure →
      failure.Tellable { threshold, json := settings.logJson }) :
    ∃ run, resolve surroundings arguments = .ok run ∧ run.trace = observed.events ∧
      (∀ status text, observed.outcome.bind printed = .ok (status, text) →
        run.status = .returned status ∧ run.output = text) ∧
      ∀ failure, observed.outcome.bind printed = .error failure →
        run.status = .returned failure.exitStatus ∧ run.output = "" := by
  have houtcome := resolveOutcome_eq surroundings arguments settings
  rw [hasked] at houtcome
  delta resolve
  simp only [hload, hlevel, houtcome]
  cases hprinted : observed.outcome.bind printed with
  | ok result =>
    refine ⟨_, rfl, rfl, fun status text hresult => ?_, fun _ hother => nomatch hother⟩
    obtain rfl := Except.ok.inj hresult
    exact ⟨rfl, rfl⟩
  | error failure =>
    obtain ⟨run, hrun, hstatus, houtput, htrace⟩ := Run.exists_withLog_error
      surroundings.time observed.events (tellable_of_printed htellable hprinted)
    refine ⟨run, hrun, htrace, (fun _ _ hother => nomatch hother), fun other hother => ?_⟩
    obtain rfl := Except.error.inj hother
    exact ⟨hstatus, houtput⟩

/-! ### What the library comes to -/

theorem tellable_of_asked {log : Log.Settings}
    (hprepared : ∀ failure, .failure failure ∈ surroundings.service.script → failure.Tellable log)
    (hconstruct : ∀ found failure, surroundings.registry.backends.find? backend = some found →
      found.construct properties = .error failure → failure.Tellable log) {failure : Failure}
    (hfailed : (asked surroundings arguments backend properties).outcome = .error failure) :
    failure.Tellable log := by
  unfold asked Registry.create at hfailed
  cases hbackend : surroundings.registry.backends.find? backend with
  | none =>
    rw [hbackend] at hfailed
    obtain rfl := Except.error.inj hfailed
    refine Failure.tellable_of_names (by decide : ∀ name ∈ ["available"], name ∉ _) ?_
    exact List.forall_mem_singleton.mpr (Json.not_tooLong_string _)
  | some found =>
    rw [hbackend] at hfailed
    cases hbuilt : found.construct properties with
    | error other =>
      simp only [hbuilt] at hfailed
      obtain rfl := Except.error.inj hfailed
      exact hconstruct found other hbackend hbuilt
    | ok repository =>
      simp only [hbuilt, findEnvironment] at hfailed
      split at hfailed
      · exact (Repository.arises_of_findOne _ _ _ hfailed).tellable hprepared
      · obtain rfl : _ = failure := Except.error.inj hfailed
        trivial

/-- What cannot be written in an environment stands in a response. -/
theorem exists_of_tooLong {environment : Environment}
    (hanswered : (asked surroundings arguments backend properties).outcome = .ok environment)
    (hlong : environment.toJson.TooLong) :
    ∃ response, .response response ∈ surroundings.service.script ∧ response.TooLong := by
  by_contra hnone
  have hshort : ∀ response, .response response ∈ surroundings.service.script → ¬ response.TooLong :=
    fun response hmem hresponse => hnone ⟨response, hmem, hresponse⟩
  unfold asked at hanswered
  cases hcreated : surroundings.registry.create backend properties with
  | error failure =>
    rw [hcreated] at hanswered
    cases hanswered
  | ok repository =>
    simp only [hcreated, findEnvironment] at hanswered
    split at hanswered
    · refine Environment.not_tooLong_toJson (fun propertySource hsource entry hentry => ?_) hlong
      exact (Repository.known_of_findOne hanswered propertySource hsource entry hentry).short hshort
    · cases hanswered

theorem asked_of_unknown (hunknown : surroundings.registry.backends.find? backend = none) :
    asked surroundings arguments backend properties =
      { outcome := .error (surroundings.registry.unknown backend), events := [] } := by
  simp only [asked, Registry.create, hunknown]

theorem asked_of_request {repository : Repository} {application profile : String}
    (hcreated : surroundings.registry.create backend properties = .ok repository)
    (happlication : arguments.application = some application)
    (hprofile : arguments.profile = some profile) :
    asked surroundings arguments backend properties =
      (observe (repository.findOne { application, profiles := some profile, label := arguments.label })
        { service := surroundings.service, provider := .fixed arguments.token }).1 := by
  simp only [asked, hcreated, findEnvironment, happlication, hprofile]

theorem asked_of_refused {repository : Repository} {application profile : String}
    {failure : Failure}
    (hcreated : surroundings.registry.create backend properties = .ok repository)
    (happlication : arguments.application = some application)
    (hprofile : arguments.profile = some profile)
    (hrefused : repository.Refused
      { service := surroundings.service, provider := .fixed arguments.token } failure) :
    (asked surroundings arguments backend properties).outcome = .error failure := by
  obtain ⟨first, rest, hprofiles⟩ := List.exists_cons_of_ne_nil (splitProfiles_ne_nil profile)
  rw [asked_of_request hcreated happlication hprofile]
  exact Repository.findOne_of_refused hprofiles
    (.start surroundings.service (.fixed arguments.token) []) hrefused

/-- Either nothing happens at all, or a repository serves one request. -/
theorem asked_cases (surroundings : Surroundings) (arguments : ResolveArguments) (backend : String)
    (properties : Properties) :
    (asked surroundings arguments backend properties).events = [] ∨
      ∃ (repository : Repository) (query : Query),
        asked surroundings arguments backend properties =
          (observe (repository.findOne query)
            { service := surroundings.service, provider := .fixed arguments.token }).1 := by
  unfold asked
  cases surroundings.registry.create backend properties with
  | error failure => exact .inl rfl
  | ok repository =>
    dsimp only [findEnvironment]
    split
    · exact .inr ⟨repository, _, rfl⟩
    · exact .inl rfl

theorem asked_of_unclosed {client : Client}
    (hclosed : client ∈ Event.closings (asked surroundings arguments backend properties).events)
    (hfails : surroundings.service.failsToClose client = true) :
    (asked surroundings arguments backend properties).outcome = .error (.ordinary .runtime "") := by
  rcases asked_cases surroundings arguments backend properties with
    hnothing | ⟨repository, query, hrequest⟩
  · rw [hnothing] at hclosed
    cases hclosed
  · rw [hrequest] at hclosed ⊢
    obtain ⟨built, _, _, _, hhanded⟩ := repository.exists_handedBack query
      (Accounted.start surroundings.service (.fixed arguments.token) [])
    rw [hhanded.closings] at hclosed
    have hbuilt := (Clients.isPrefix_closedInTurn _ _).mem hclosed
    exact hhanded.failed (List.any_eq_true.mpr ⟨client, hbuilt, hfails⟩)

/-! ### The command -/

/-- How a run of the command agrees with the library. -/
structure Agrees (surroundings : Surroundings) (arguments : ResolveArguments) (backend : String)
    (properties : Properties) (run : Run) : Prop where
  /-- The environment that the library answers is written out, and nothing else is. -/
  answered : ∀ environment,
    (asked surroundings arguments backend properties).outcome = .ok environment →
      ¬ environment.toJson.TooLong →
        run.status = .returned 0 ∧ run.output = environment.toJson.indented ++ "\n"
  /-- Only a number in a response can be too long for that. -/
  unwritten : ∀ environment,
    (asked surroundings arguments backend properties).outcome = .ok environment →
      environment.toJson.TooLong →
        (∃ response, .response response ∈ surroundings.service.script ∧ response.TooLong) ∧
          run.status = .returned 127 ∧ run.output = ""
  /-- When it answers none, nothing is. -/
  silent : ∀ failure,
    (asked surroundings arguments backend properties).outcome = .error failure → run.output = ""
  /-- An error of the library shows in the status by its kind. -/
  configuration : ∀ error,
    (asked surroundings arguments backend properties).outcome = .error (.library error) →
      error.kind = .configuration ∨ error.kind = .credentialParse → run.status = .returned 10
  provider : ∀ error,
    (asked surroundings arguments backend properties).outcome = .error (.library error) →
      error.kind = .provider ∨ error.kind = .storeFetch → run.status = .returned 11
  interrupted : (asked surroundings arguments backend properties).outcome = .error .interrupted →
    run.status = .returned 130
  crashed : ∀ failure,
    (asked surroundings arguments backend properties).outcome = .error failure →
      failure ≠ .interrupted → (∀ error, failure = .library error → error.kind = .general) →
        run.status = .returned 127
  /-- Nobody knows the backend. -/
  unknown : surroundings.registry.backends.find? backend = none → run.status = .returned 10
  /-- The token is not blank, and nothing can be read from it. -/
  undecodable : ∀ repository application profile token rejection,
    surroundings.registry.create backend properties = .ok repository →
      arguments.application = some application → arguments.profile = some profile →
        arguments.token = some token → ¬ Blank token →
          SessionCredentials.read token = .error rejection → run.status = .returned 10
  /-- There is no client to be had for the source that the token leads to. -/
  unconnected : ∀ repository application profile source failure,
    surroundings.registry.create backend properties = .ok repository →
      arguments.application = some application → arguments.profile = some profile →
        repository.sourceFor arguments.token = .ok source →
          surroundings.service.connect (source.session repository.properties.region) =
              .error failure → run.status = .returned 127
  /-- A client cannot be closed, whatever else has happened. -/
  unclosed : ∀ client ∈ Event.closings run.trace,
    surroundings.service.failsToClose client = true → run.status = .returned 127

def plainSettings : Settings where
  backend := Settings.builtInBackend
  order := 2147483647
  profileSeparator := "/"
  pathPrefix := "/"
  region := none
  awsProfile := none
  logLevel := "INFO"
  logJson := true

theorem load_plainSettings : Settings.load {} = .valid plainSettings := by
  have hempty : EnvFile.ofText "" = [] := by
    show EnvFile.bindings [] = []
    rw [EnvFile.bindings]
    rfl
  have hfields : ({} : Settings.Origins).fields = ∅ := by
    simp only [Settings.Origins.fields, Settings.Origins.field?, hempty]
    rfl
  rw [Settings.load, hfields]
  rfl

/-- The command ends well or badly as the library does, if the failures that are prepared and those of backends can be told. Each option counts where it was given, even when it is empty, and the setting counts where it was not. -/
theorem resolve_agrees (surroundings : Surroundings) (arguments : ResolveArguments)
    (settings : Settings) (threshold : Int) (properties : Properties)
    (hload : Settings.load surroundings.origins = .valid settings)
    (hlevel : Log.threshold (.string settings.logLevel) = .ok threshold)
    (hproperties : properties =
      { order := settings.order
        pathPrefix := arguments.pathPrefix.getD settings.pathPrefix
        profileSeparator := arguments.profileSeparator.getD settings.profileSeparator
        region := arguments.region.or settings.region
        profile := arguments.awsProfile.or settings.awsProfile })
    (hprepared : ∀ failure, .failure failure ∈ surroundings.service.script →
      failure.Tellable { threshold, json := settings.logJson })
    (hconstruct : ∀ found failure,
      surroundings.registry.backends.find? settings.backend = some found →
        found.construct properties = .error failure →
          failure.Tellable { threshold, json := settings.logJson }) :
    ∃ run, resolve surroundings arguments = .ok run ∧
      Agrees surroundings arguments settings.backend properties run := by
  have hchosen : arguments.properties settings = properties := hproperties.symm
  obtain ⟨run, hrun, htrace, hprinted, hunprinted⟩ := exists_resolve hload hlevel
    (congrArg (asked surroundings arguments settings.backend) hchosen)
    fun failure => tellable_of_asked hprepared hconstruct
  have hfailed : ∀ failure,
      (asked surroundings arguments settings.backend properties).outcome = .error failure →
        run.status = .returned failure.exitStatus ∧ run.output = "" :=
    fun failure houtcome => hunprinted failure (congrArg (Except.bind · printed) houtcome)
  refine ⟨run, hrun, ?_⟩
  constructor
  case answered =>
    intro environment houtcome hshort
    exact hprinted _ _ ((congrArg (Except.bind · printed) houtcome).trans (printed_of_short hshort))
  case unwritten =>
    intro environment houtcome hlong
    exact ⟨exists_of_tooLong houtcome hlong, hunprinted _
      ((congrArg (Except.bind · printed) houtcome).trans (printed_of_tooLong hlong))⟩
  case silent => exact fun failure houtcome => (hfailed failure houtcome).2
  case configuration =>
    intro error houtcome hkind
    rw [(hfailed _ houtcome).1, Failure.exitStatus_of_configuration hkind]
  case provider =>
    intro error houtcome hkind
    rw [(hfailed _ houtcome).1, Failure.exitStatus_of_provider hkind]
  case interrupted => exact fun houtcome => (hfailed _ houtcome).1
  case crashed =>
    intro failure houtcome hnot hgeneral
    rw [(hfailed _ houtcome).1, Failure.exitStatus_of_general hnot hgeneral]
  case unknown =>
    intro hunknown
    exact (hfailed _ (congrArg Observed.outcome (asked_of_unknown hunknown))).1
  case undecodable =>
    intro repository application profile token rejection hcreated happlication hprofile htoken
      hsent hread
    have hrefused : repository.Refused
        { service := surroundings.service, provider := .fixed arguments.token }
        (Failure.undecodableToken rejection.name) :=
      Repository.refused_of_undecoded htoken hsent hread
    exact (hfailed _ (asked_of_refused hcreated happlication hprofile hrefused)).1
  case unconnected =>
    intro repository application profile source failure hcreated happlication hprofile hsource
      hconnect
    have hadmission := Service.admission_of_connect_error hconnect
    have hrefused : repository.Refused
        { service := surroundings.service, provider := .fixed arguments.token } failure :=
      .inr ⟨source, hsource, hadmission⟩
    rw [(hfailed _ (asked_of_refused hcreated happlication hprofile hrefused)).1]
    rcases Service.eq_or_eq_of_admission hadmission with rfl | rfl <;> rfl
  case unclosed =>
    intro client hclient hfails
    rw [htrace] at hclient
    exact (hfailed _ (asked_of_unclosed hclient hfails)).1

/-- A token that is no base64 text, at a service that would be interrupted. -/
theorem resolve_agrees_undecodable :
    let surroundings : Surroundings :=
      { registry := builtInRegistry, service := { script := [.failure .interrupted] }
        time := "now" }
    let arguments : ResolveArguments :=
      { application := some "app", profile := some "dev", label := none, token := some "!"
        region := none, pathPrefix := some "", profileSeparator := none, awsProfile := none }
    ∃ run, resolve surroundings arguments = .ok run ∧ run.status = .returned 10 := by
  intro surroundings arguments
  have hprepared : ∀ failure, .failure failure ∈ surroundings.service.script →
      failure.Tellable { threshold := 20, json := true } := by
    intro failure hmem
    obtain rfl : failure = .interrupted := by simpa [surroundings] using hmem
    trivial
  have hconstruct : ∀ found failure,
      surroundings.registry.backends.find? plainSettings.backend = some found →
        found.construct { pathPrefix := "" } = .error failure →
          failure.Tellable { threshold := 20, json := true } := by
    intro found failure hfound hfailed
    obtain rfl := Option.some.inj hfound
    cases hfailed
  obtain ⟨run, hrun, hagrees⟩ := resolve_agrees surroundings arguments plainSettings 20
    { pathPrefix := "" } load_plainSettings rfl rfl hprepared hconstruct
  have hread : SessionCredentials.read "!" = .error .notBase64 := by decide +kernel
  have hsent : ¬ Blank "!" := fun hblank => absurd (hblank '!' (by decide)) (by decide)
  exact ⟨run, hrun, hagrees.undecodable _ _ _ _ _ rfl rfl rfl rfl hsent hread⟩

/-- A configuration error that a request for a page ends with is told by its own status. -/
theorem resolve_tells_configuration_error :
    let surroundings : Surroundings :=
      { registry := builtInRegistry
        service := { script := [.failure (.library { kind := .configuration, message := "m" })] }
        time := "now" }
    let arguments : ResolveArguments :=
      { application := some "app", profile := some "dev", label := none, token := none
        region := none, pathPrefix := none, profileSeparator := none, awsProfile := none }
    Settings.load surroundings.origins = .valid plainSettings ∧
      (surroundings.registry.create plainSettings.backend
        (arguments.properties plainSettings)).isOk = true ∧
      ∃ run, resolve surroundings arguments = .ok run ∧ run.status = .returned 10 := by
  intro surroundings arguments
  let repository : Repository := { properties := {} }
  let before : ServingState := { service := surroundings.service, provider := .fixed none }
  have hload : Settings.load surroundings.origins = .valid plainSettings := load_plainSettings
  refine ⟨hload, rfl, ?_⟩
  have hprofiles : splitProfiles (some "dev") = ["dev"] := by decide
  have hreply : (before.service.reply
      { path := repository.properties.path "app" "dev" }).1 =
        .error (.library { kind := .configuration, message := "m" }) := rfl
  have hcreated : surroundings.registry.create plainSettings.backend
      (arguments.properties plainSettings) = .ok repository := rfl
  have houtcome : (asked surroundings arguments plainSettings.backend
      (arguments.properties plainSettings)).outcome =
        .error (.library { kind := .configuration, message := "m" }) := by
    rw [asked_of_request hcreated rfl rfl]
    refine Repository.findOne_of_first_failure hprofiles (.start before.service before.provider [])
      rfl ?_
    show Repository.sourceRead _ (before.service.readPages _ none).outcome = _
    rw [Service.readPages_of_error hreply]
    rfl
  generalize hasked : asked surroundings arguments plainSettings.backend
    (arguments.properties plainSettings) = observed at houtcome
  have htellable : ∀ failure, observed.outcome = .error failure →
      failure.Tellable { threshold := 20, json := true } := by
    intro failure hfailure
    obtain rfl := Except.error.inj (houtcome.symm.trans hfailure)
    exact Failure.tellable_of_names (fun _ hname => nomatch hname) fun _ hentry => nomatch hentry
  obtain ⟨run, hrun, _, _, hfailed⟩ := exists_resolve hload rfl hasked htellable
  exact ⟨run, hrun, (hfailed _ (congrArg (Except.bind · printed) houtcome)).1⟩

end CommandLine

end ParameterConfig
