import ParameterConfig.Registry.Arguments

/-!
# Uses of a registry

Backends are registered, created and listed one after the other. Only a registration that succeeds changes the registry.
-/

namespace ParameterConfig
namespace Registry

variable {β : Type}

inductive Step (β : Type) where
  | register (name : String) (backend : Backend Arguments β)
  | create (name : String) (arguments : Arguments)
  | list

/-- What a step answers when it succeeds. -/
inductive Answer (β : Type) where
  | registered
  | created (value : β)
  | listed (backends : List (String × Option String))

/-- Performs a step: the answer, and the registry after it. -/
def Step.perform (registry : Registry Arguments β) :
    Step β → Except Failure (Answer β) × Registry Arguments β
  | .register name backend =>
    match registry.register name backend with
    | .ok after => (.ok .registered, after)
    | .error failure => (.error failure, registry)
  | .create name arguments => ((registry.call name arguments).map .created, registry)
  | .list => (.ok (.listed registry.list), registry)

/-- The answers to steps performed one after the other, failed ones included, and the registry after them. -/
def run (registry : Registry Arguments β) :
    List (Step β) → List (Except Failure (Answer β)) × Registry Arguments β
  | [] => ([], registry)
  | step :: rest =>
    let (answer, after) := step.perform registry
    let (answers, last) := run after rest
    (answer :: answers, last)

end Registry
end ParameterConfig
