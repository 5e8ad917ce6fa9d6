import ParameterConfig.CommandLine
import ParameterConfig.Json.Reader
import ParameterConfig.Text.Split

/-!
# What a process brings along

A process has its variables in one block of text, the parameters it serves in a JSON file, and a user who may be asked for a secret. From these come the surroundings of a run.
-/

namespace ParameterConfig
namespace CommandLine

/-- An entry `name=value`. The name ends at the first equals sign. -/
def assignment? (entry : List Char) : Option (String × String) :=
  let (name, rest) := entry.span (· ≠ '=')
  match rest with
  | _ :: value => some (String.ofList name, String.ofList value)
  | [] => none

/-- The variables in a block of entries, each of which is ended by a zero character. -/
def environmentOf (block : String) : OrderedMap String String :=
  .ofList ((Text.split '\x00' block.toList).filterMap assignment?)

def parameter? : String × Json → Option (String × String)
  | (name, .string value) => some (name, value)
  | _ => none

/-- The parameters that the text of a JSON object holds. Members that are no texts are none of them. -/
def parameters (text : String) : OrderedMap String String :=
  match Json.ofChars? SessionCredentials.limits text.toList with
  | some (.object members) => .ofList (members.filterMap parameter?)
  | _ => ∅

/-- The texts that a process finds at its start. -/
structure Start where
  variableBlock : String := ""
  environmentFile : String := ""
  parameterFile : String := ""
  time : String

/-- The surroundings of a run before the user was asked for anything. -/
def Start.surroundings (start : Start) : Surroundings :=
  { origins := { environment := environmentOf start.variableBlock, file := start.environmentFile }
    registry := builtInRegistry
    service := { store := parameters start.parameterFile }
    time := start.time }

/-- What a process writes and the status it ends with. -/
structure Result where
  status : Int
  output : String := ""
  errors : String := ""
deriving DecidableEq, Repr

def Status.number : Status → Int
  | .returned status => status
  | .exited status => status

/-- Records from before the log was set up are told on the console, whatever their level. -/
def earlyText (time : String) (records : List Log.Record) : String :=
  String.join (records.map (Log.Settings.initial.written time))

/-- The result of a run. A failure that no command accounts for is told by its name. -/
def Result.ofRun (time : String) : Except Failure Run → Result
  | .ok run =>
    { status := run.status.number
      output := run.output
      errors := earlyText time run.early ++ run.errors }
  | .error failure => { status := 1, errors := failure.name ++ "\n" }

end CommandLine
end ParameterConfig
