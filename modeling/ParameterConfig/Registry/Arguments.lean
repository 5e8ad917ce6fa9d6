import ParameterConfig.Registry

/-!
# Calls with positional and named arguments

A backend may be created with arguments by position and by name. The names that the call itself uses for the registry and the backend's name cannot be given to the constructor.
-/

namespace ParameterConfig

structure Arguments where
  positional : List Json
  named : OrderedMap String Json

namespace Registry

def takenNames : List String := ["self", "name"]

def call {β : Type} (registry : Registry Arguments β) (name : String) (arguments : Arguments) :
    Except Failure β :=
  if arguments.named.keys.any takenNames.contains then .error (.ordinary .type "")
  else registry.create name arguments

end Registry
end ParameterConfig
