import ParameterConfig.Failure
import ParameterConfig.Text.Quoted

/-!
# Log levels

Records carry one of five levels. The threshold is a number; it is set by a number or by one of the known names, and a record passes when its level reaches it.
-/

namespace ParameterConfig
namespace Log

inductive Level where
  | debug
  | info
  | warning
  | error
  | critical
deriving DecidableEq, Repr

namespace Level

def name : Level → String
  | .debug => "debug"
  | .info => "info"
  | .warning => "warning"
  | .error => "error"
  | .critical => "critical"

def weight : Level → Int
  | .debug => 10
  | .info => 20
  | .warning => 30
  | .error => 40
  | .critical => 50

/-- The level of the logging call with this name. -/
def ofCall? (call : String) : Option Level :=
  if call = "debug" then some .debug
  else if call = "info" then some .info
  else if call = "warning" || call = "warn" then some .warning
  else if call = "error" || call = "exception" then some .error
  else if call = "critical" || call = "fatal" then some .critical
  else none

end Level

/-- The threshold when logging is set up without naming one. -/
def defaultThreshold : Int := 20

/-- The threshold that holds as long as none has been set. -/
def initialThreshold : Int := 30

def thresholdNames : List (String × Int) :=
  [("CRITICAL", 50), ("FATAL", 50), ("ERROR", 40), ("WARN", 30), ("WARNING", 30), ("INFO", 20),
   ("DEBUG", 10), ("NOTSET", 0)]

def thresholdNamed? (name : String) : Option Int :=
  (thresholdNames.find? fun entry => entry.1 = name).map Prod.snd

/-- The threshold that a setting asks for; no value leaves the initial one. -/
def threshold : Json → Except Failure Int
  | .null => .ok initialThreshold
  | .integer n => .ok n
  | .bool value => .ok (if value then 1 else 0)
  | .string name =>
    match thresholdNamed? name with
    | some n => .ok n
    | none => .error (.valueFault ("Unknown level: " ++ Text.quoted name))
  | _ => .error (.ordinary .type "")

def Level.passes (level : Level) (threshold : Int) : Bool :=
  threshold ≤ level.weight

end Log
end ParameterConfig
