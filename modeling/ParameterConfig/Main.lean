import ParameterConfig.CommandLine.Process
import Std.Time

/-!
# The command line as a program

Collects what the process brings along, asks the user for a secret if the run shows a prompt, and writes the result. Parameters are served from the file `parameters.json` of the working directory.
-/

namespace ParameterConfig
namespace CommandLine

/-- The text of a file, empty when there is no such file. -/
def readIfPresent (path : String) : IO String := do
  try IO.FS.readFile path
  catch
    | .noFileOrDirectory .. => return ""
    | error => throw error

def currentTime : IO String := do
  let now ← Std.Time.Timestamp.now
  return (Std.Time.DateTime.ofTimestamp now .UTC).format "uuuu-MM-dd'T'HH:mm:ss.SSSSSS'Z'"

def readStart : IO Start := do
  return {
    variableBlock := ← readIfPresent "/proc/self/environ"
    environmentFile := ← readIfPresent ".env"
    parameterFile := ← readIfPresent "parameters.json"
    time := ← currentTime }

/-- What the user answers to a prompt, or nothing at the end of the input. -/
def ask (prompts : List String) : IO (Option String) := do
  IO.eprint (String.join prompts)
  let answer ← (← IO.getStdin).getLine
  if answer.isEmpty then return none
  return some (answer.dropEndWhile (· = '\n')).copy

def execute (words : List String) : IO Result := do
  let start ← readStart
  let surroundings := start.surroundings
  let unasked := run surroundings words
  let prompts := (unasked.toOption.map Run.prompts).getD []
  if prompts.isEmpty then return .ofRun start.time unasked
  return .ofRun start.time (run { surroundings with secret := ← ask prompts } words)

end CommandLine
end ParameterConfig

def main (args : List String) : IO UInt32 := do
  let result ← ParameterConfig.CommandLine.execute args
  IO.eprint result.errors
  IO.print result.output
  return UInt32.ofInt result.status
