import ParameterConfig.Failure

/-!
# The registry of backends

Backends are known by name. Registering a name again replaces its constructor and description and keeps its place in the list.
-/

namespace ParameterConfig

/-- A registered way to build a `β` from an `α`. -/
structure Backend (α β : Type) where
  construct : α → Except Failure β
  description : Option String := none

structure Registry (α β : Type) where
  backends : OrderedMap String (Backend α β) := ∅

namespace Registry

variable {α β : Type}

def register (registry : Registry α β) (name : String) (backend : Backend α β) :
    Except Failure (Registry α β) :=
  if name.isEmpty then .error (.valueFault "Backend name is required")
  else .ok { backends := registry.backends.insert name backend }

/-- The registered names, sorted. -/
def available (registry : Registry α β) : List String :=
  registry.backends.keys.mergeSort fun first second => first ≤ second

def unknown (registry : Registry α β) (name : String) : Failure :=
  .library
    { kind := .configuration
      message := "Backend '" ++ name ++ "' is not registered"
      details := .ofList [("available", .string (",".intercalate registry.available))] }

def create (registry : Registry α β) (name : String) (argument : α) : Except Failure β :=
  match registry.backends.find? name with
  | some backend => backend.construct argument
  | none => .error (registry.unknown name)

/-- Names and descriptions in order of first registration. -/
def list (registry : Registry α β) : List (String × Option String) :=
  registry.backends.entries.map fun entry => (entry.1, entry.2.description)

end Registry
end ParameterConfig
