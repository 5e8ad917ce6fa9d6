import ParameterConfig.Command
import ParameterConfig.CommandLine.Commands
import ParameterConfig.Registry
import ParameterConfig.Repository
import ParameterConfig.Settings

/-!
# Running the command line

A run reads its words, loads the settings, and leaves behind a status, what it wrote to both outputs, what was logged before the log was set up, the prompts shown, and the events at the parameter service. Nothing is written to the standard output by a command that fails.
-/

namespace ParameterConfig
namespace CommandLine

/-- What a run finds around it. -/
structure Surroundings where
  origins : Settings.Origins := {}
  registry : Registry Properties Repository
  service : Service := {}
  secret : Option String := none
  time : String

/-- How a run ends: a command returns its status, and reading the words may already end it. -/
inductive Status where
  | returned (status : Int)
  | exited (status : Int)
deriving DecidableEq, Repr

structure Run where
  status : Status
  output : String := ""
  errors : String := ""
  early : List Log.Record := []
  prompts : List String := []
  trace : List Event := []

def version : String := "0.1.0"

/-- The registry with the backend that comes with the library. -/
def builtInRegistry : Registry Properties Repository where
  backends := .ofList
    [(Settings.builtInBackend,
      { construct := fun properties => .ok { properties }
        description := some "AWS Systems Manager Parameter Store" })]

namespace Run

def stopped : Stop → Run
  | .help text => { status := .exited 0, output := text }
  | .error usage program message =>
    { status := .exited 2, errors := usage ++ program ++ ": error: " ++ message ++ "\n" }

/-- A run whose command ended before the log was set up. -/
def beforeLog (outcome : Except Failure (Int × String)) : Except Failure Run := do
  let ending ← Ending.of Log.Settings.initial (outcome.map Prod.fst)
  return {
    status := .returned ending.status
    output := match outcome with
      | .ok (_, text) => text
      | .error _ => ""
    errors := ending.message.getD ""
    early := ending.records }

def loggedRecords (trace : List Event) : List Log.Record :=
  trace.filterMap fun event =>
    match event with
    | .logged record => some record
    | _ => none

/-- A run whose command ended with the log set up. -/
def withLog (log : Log.Settings) (time : String) (outcome : Except Failure (Int × String))
    (trace : List Event) : Except Failure Run := do
  let ending ← Ending.of log (outcome.map Prod.fst)
  let written := (loggedRecords trace ++ ending.records).map (log.written time)
  return {
    status := .returned ending.status
    output := match outcome with
      | .ok (_, text) => text
      | .error _ => ""
    errors := String.join written ++ ending.message.getD ""
    trace }

end Run

/-! ### Resolving an environment -/

/-- The properties of the settings, each replaced where an option was given for it. -/
def ResolveArguments.properties (arguments : ResolveArguments) (settings : Settings) : Properties :=
  let properties := settings.repositoryProperties
  { properties with
    pathPrefix := arguments.pathPrefix.getD properties.pathPrefix
    profileSeparator := arguments.profileSeparator.getD properties.profileSeparator
    region := arguments.region.or properties.region
    profile := arguments.awsProfile.or properties.profile }

def environmentText (environment : Environment) : String :=
  environment.toJson.indented ++ "\n"

/-- What is printed of an environment, unless it cannot be written. -/
def printed (environment : Environment) : Except Failure (Int × String) := do
  Failure.checkWritable environment.toJson
  return (0, environmentText environment)

/-- Finds the environment that the words name. Without a profile there is nothing to split into profiles. -/
def findEnvironment (arguments : ResolveArguments) (repository : Repository) :
    Serving Environment :=
  match arguments.application, arguments.profile with
  | some application, some profile =>
    repository.findOne { application, profiles := some profile, label := arguments.label }
  | _, _ => throw (.ordinary .attribute "")

/-- Finds the environment in a freshly created repository. -/
def resolveOutcome (surroundings : Surroundings) (arguments : ResolveArguments)
    (settings : Settings) : Except Failure (Int × String) × List Event :=
  match surroundings.registry.create settings.backend (arguments.properties settings) with
  | .error failure => (.error failure, [])
  | .ok repository =>
    let start : ServingState :=
      { service := surroundings.service, provider := .fixed arguments.token }
    let (outcome, state) := (findEnvironment arguments repository).run.run start
    (outcome.bind printed, state.trace)

def resolve (surroundings : Surroundings) (arguments : ResolveArguments) : Except Failure Run :=
  match Settings.load surroundings.origins with
  | .issues list => Run.beforeLog (.error (.invalid list))
  | .valid settings =>
    match Log.threshold (.string settings.logLevel) with
    | .error failure =>
      Run.withLog { threshold := Log.initialThreshold, json := settings.logJson } surroundings.time
        (.error failure) []
    | .ok threshold =>
      let (outcome, trace) := resolveOutcome surroundings arguments settings
      Run.withLog { threshold, json := settings.logJson } surroundings.time outcome trace

/-! ### The other commands -/

def secretPrompt : String := "Secret access key: "

/-- The secret from the words, or else from the user, who may have none to give. -/
def askSecret (surroundings : Surroundings) (arguments : EncodeTokenArguments) :
    Except Failure String × List String :=
  match arguments.secretAccessKey.filter fun secret => !secret.isEmpty with
  | some secret => (.ok secret, [])
  | none =>
    match surroundings.secret with
    | some secret => (.ok secret, [secretPrompt])
    | none => (.error (.ordinary .endOfInput ""), [secretPrompt])

/-- A value from the words as a field. A missing value is no text. -/
def givenField : Option String → Json
  | some text => .string text
  | none => .array []

def givenCredentials (arguments : EncodeTokenArguments) (secret : String) :
    Except Failure SessionCredentials :=
  (SessionCredentials.ofFields (.ofList
    [("AccessKeyId", givenField arguments.accessKeyId), ("SecretAccessKey", .string secret),
     ("SessionToken", givenField arguments.sessionToken)])).toExcept

def encodeToken (surroundings : Surroundings) (arguments : EncodeTokenArguments) :
    Except Failure Run := do
  let (secret, prompts) := askSecret surroundings arguments
  let credentials := secret.bind (givenCredentials arguments)
  let run ← Run.beforeLog (credentials.map fun given => (0, given.encode ++ "\n"))
  return { run with prompts }

def backendLine (name : String) (description : Option String) : String :=
  match description.filter fun text => !text.isEmpty with
  | some text => name ++ "\t" ++ text
  | none => name

def listBackends (registry : Registry Properties Repository) : Run :=
  { status := .returned 0
    output := lines (registry.list.map fun entry => backendLine entry.1 entry.2) }

def run (surroundings : Surroundings) (words : List String) : Except Failure Run :=
  match Invocation.ofWords words with
  | .error stop => .ok (Run.stopped stop)
  | .ok (.resolve arguments) => resolve surroundings arguments
  | .ok (.encodeToken arguments) => encodeToken surroundings arguments
  | .ok .backends => .ok (listBackends surroundings.registry)
  | .ok .nothing => .ok { status := .returned 1, output := topGrammar.help }

end CommandLine
end ParameterConfig
