import ParameterConfig.Failure
import ParameterConfig.Path

/-!
# Environments

What a configuration server hands to its clients: an environment with one property source for each requested profile. A property source maps flat keys to values; of several parameters with the same key the last one counts.
-/

namespace ParameterConfig

/-- A stored parameter as the service returned it. -/
structure Parameter where
  name : Json
  value : Json

structure PropertySource where
  name : String
  source : OrderedMap String Json := ∅

structure Environment where
  name : String
  profiles : List String
  label : Option String := none
  version : Option String := none
  state : Option String := none
  propertySources : List PropertySource := []

/-- A parameter named by text. -/
def Parameter.ofText (name value : String) : Parameter :=
  { name := .string name, value := .string value }

/-- Only a text can be made a property key. -/
def Parameter.key (path : String) (parameter : Parameter) : Except Failure String :=
  match parameter.name with
  | .string name => .ok (flattenName path name)
  | _ => .error (.ordinary .attribute "")

namespace PropertySource

def nameOf (path : String) : String :=
  "aws:ssm:parameter:" ++ path

def ofParameters (path : String) (parameters : List Parameter) : Except Failure PropertySource := do
  let pairs ← parameters.mapM fun parameter =>
    (parameter.key path).map fun key => (key, parameter.value)
  return { name := nameOf path, source := .ofList pairs }

def toJson (source : PropertySource) : Json :=
  .object [("name", .string source.name), ("source", .object source.source.entries)]

end PropertySource

namespace Environment

def toJson (environment : Environment) : Json :=
  .object
    [("name", .string environment.name),
     ("profiles", .array (environment.profiles.map .string)),
     ("label", .ofOptional environment.label),
     ("version", .ofOptional environment.version),
     ("state", .ofOptional environment.state),
     ("propertySources", .array (environment.propertySources.map PropertySource.toJson))]

/-- Environments are the same when all they say is the same; the order of properties says nothing. -/
def same (first second : Environment) : Bool :=
  first.toJson.same second.toJson

end Environment
end ParameterConfig
