import ParameterConfig.Failure.Message
import ParameterConfig.Log.Record

/-!
# How a command ends

A command ends with a status, whatever happens in it. An error of the library is logged and told, and its kind decides the status; an interrupted command ends with 130; any other failure is logged by its name alone and ends with 127. Logging and telling an error of the library may fail in turn.
-/

namespace ParameterConfig

/-- How a command ended: its status, what was logged about it, and what is told to the user. -/
structure Ending where
  status : Int
  records : List Log.Record := []
  message : Option String := none

namespace Ending

def interrupted : Int := 130

def crashed : Int := 127

/-- The names under which the record of a failed command tells of the failure itself. -/
def ownNames : List String := ["error_type", "exit_code"]

/-- The details of an error behind the fields that its record has of its own, none of which they may repeat. -/
def failureFields (error : LibraryError) : Except Failure (OrderedMap String Json) :=
  if error.details.keys.any ownNames.contains then .error (.ordinary .key "")
  else
    .ok (.ofList
      ([("error_type", .string error.kind.name), ("exit_code", .ofNat error.kind.exitCode)] ++
        error.details.entries))

def failureRecord (error : LibraryError) : Except Failure Log.Record := do
  Log.Record.ofCall .error "command_failed" ∅ (← failureFields error)

def crashRecord (failure : Failure) : Log.Record :=
  .of .error "command_crashed" [] [("error_type", .string failure.name)]

/-- The record with the error that is being handled in the place of a field for an exception, if it is asked for. -/
def withTrace (record : Log.Record) : Log.Record :=
  if (record.fields.find? "exc_info").any Json.isGiven then
    { record with fields := record.fields.erase "exception" }
  else record

/-- The ending that an outcome leads to. An error of the library is logged before it is told. -/
def of (log : Log.Settings) : Except Failure Int → Except Failure Ending
  | .ok status => .ok { status }
  | .error (.library error) => do
    let record ← failureRecord error
    log.check (withTrace record)
    let text ← error.formatted
    return {
      status := error.kind.exitCode
      records := [record]
      message := some ("Error: " ++ text ++ "\n") }
  | .error .interrupted => .ok { status := interrupted }
  | .error failure => .ok { status := crashed, records := [crashRecord failure] }

end Ending
end ParameterConfig
