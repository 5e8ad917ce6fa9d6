import ParameterConfig.Failure
import ParameterConfig.Json.Display
import ParameterConfig.Json.Printer
import ParameterConfig.Log.Level

/-!
# Log records and their lines

A record names an event and carries fields: those bound to the logger first, then those of the call, a repeated name keeping its place. It is written as one line, either in JSON with event, level and time as further fields, or aligned for a console with the remaining fields sorted by name. Some records cannot be written.
-/

namespace ParameterConfig
namespace Log

structure Record where
  level : Level
  event : String
  fields : OrderedMap String Json

def Record.of (level : Level) (event : String) (bound call : List (String × Json)) : Record :=
  { level, event, fields := OrderedMap.ofList (bound ++ call) }

/-- The names that a logging call uses itself; a field of the call cannot have one of them. -/
def takenNames : List String := ["event", "self", "method_name"]

/-- The name that binding fields to a logger uses itself. -/
def bindingName : String := "self"

/-- The record of a logging call, unless a field has a name that the call needs. -/
def Record.ofCall (level : Level) (event : String) (bound call : OrderedMap String Json) :
    Except Failure Record :=
  if bound.contains bindingName || call.keys.any takenNames.contains then
    .error (.ordinary .type "")
  else .ok (.of level event bound.entries call.entries)

namespace Record

/-- All fields of a line. Event, level and time take the place of fields of their names. -/
def lineFields (record : Record) (time : String) : OrderedMap String Json :=
  let fields := record.fields.insert "event" (.string record.event)
  let fields := (fields.insert "level" (.string record.level.name)).insert "timestamp" (.string time)
  fields.erase "exc_info"

/-- The fields of a JSON line, in which nothing is told about an exception. -/
def jsonFields (record : Record) (time : String) : OrderedMap String Json :=
  (record.lineFields time).erase "exception"

def jsonLine (record : Record) (time : String) : String :=
  (Json.object (record.jsonFields time).entries).line .spaced

/-! ### Console lines -/

/-- The characters that make a text value on the console be quoted. -/
def unsafeOnConsole : List Char := [' ', '\t', '=', '\r', '\n', '"', '\'']

def consoleValue : Json → String
  | .string s => if s.toList.any unsafeOnConsole.contains then Text.quoted s else s
  | value => value.shown

def padRight (width : Nat) (s : String) : String :=
  s ++ String.ofList (List.replicate (width - s.length) ' ')

/-- The names of the fields that are told below the line. -/
def belowNames : List String := ["stack", "exception"]

/-- The names of the fields that have a place of their own on the line or below it. -/
def placedNames : List String :=
  ["timestamp", "level", "event", "logger", "logger_name"] ++ belowNames

/-- The texts of the fields that are told below the line. -/
def textsBelow (fields : OrderedMap String Json) : List String :=
  belowNames.filterMap fun name =>
    match fields.find? name with
    | some (.string text) => some text
    | _ => none

/-- Below the line there is nothing but text. -/
def standsBelow : Json → Bool
  | .null => true
  | .string _ => true
  | _ => false

/-- What stands below a line, two texts with a rule between them. -/
def below : List String → String
  | [] => ""
  | [text] => "\n" ++ text
  | text :: rest =>
    "\n" ++ text ++ "\n\n" ++ String.ofList (List.replicate 79 '=') ++ "\n" ++ below rest

def consoleLine (record : Record) (time : String) : String :=
  let fields := record.lineFields time
  let loggers := ["logger", "logger_name"].filterMap fun name =>
    (fields.find? name).map fun value => "[" ++ value.display ++ "]"
  let others := fields.entries.filter fun entry => !placedNames.contains entry.1
  let sorted := others.mergeSort fun first second => first.1 ≤ second.1
  let pairs := sorted.map fun entry => entry.1 ++ "=" ++ consoleValue entry.2
  " ".intercalate
    ([time, "[" ++ padRight 9 record.level.name ++ "]", padRight 30 record.event] ++ loggers ++
      pairs) ++ below (textsBelow fields)

/-- Fails for a record that the console cannot show: a number on the line is too long, or what stands below it is no text. -/
def checkConsole (record : Record) : Except Failure Unit := do
  let fields := (record.lineFields "").entries
  Failure.checkWritable (.object (fields.filter fun entry => !belowNames.contains entry.1))
  if (fields.filter fun entry => belowNames.contains entry.1).all fun entry => standsBelow entry.2
  then return ()
  else throw (.ordinary .type "")

end Record

/-- How records are turned into lines, and which of them. -/
structure Settings where
  threshold : Int
  json : Bool

namespace Settings

/-- Before anything is set up, all records are written to a console. -/
def initial : Settings :=
  { threshold := 0, json := false }

/-- Fails for a record that reaches the threshold and cannot be written. -/
def check (settings : Settings) (record : Record) : Except Failure Unit :=
  if record.level.passes settings.threshold then
    if settings.json then Failure.checkWritable (.object (record.lineFields "").entries)
    else record.checkConsole
  else .ok ()

/-- The line of a record with its line break, or nothing when its level stays below the threshold. -/
def written (settings : Settings) (time : String) (record : Record) : String :=
  if record.level.passes settings.threshold then
    (if settings.json then record.jsonLine time else record.consoleLine time) ++ "\n"
  else ""

end Settings

end Log
end ParameterConfig
