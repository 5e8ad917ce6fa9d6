import ParameterConfig.EnvFile

/-!
# References between variables

A value of an environment file may refer to other variables as `${NAME}`, with a default after `:-` for a variable that is not there. The values that come earlier in the file are looked at first, then the environment of the process.
-/

namespace ParameterConfig
namespace EnvFile

/-- A reference to a variable, with the default for it. -/
structure Reference where
  name : String
  default : Option String

/-- The reference that starts after a dollar sign, and what follows it. -/
def reference? : List Char → Option (Reference × List Char)
  | '\x7b' :: rest =>
    let (name, after) := rest.span fun c => c ≠ '\x7d' && c ≠ ':'
    match after with
    | '\x7d' :: after => some (⟨String.ofList name, none⟩, after)
    | ':' :: '-' :: after =>
      let (default, after) := after.span (· ≠ '\x7d')
      match after with
      | '\x7d' :: after => some (⟨String.ofList name, some (String.ofList default)⟩, after)
      | _ => none
    | _ => none
  | _ => none

/-- The text with all references replaced, from left to right. -/
def interpolate (value : Reference → String) (cs : List Char) : List Char :=
  match cs with
  | [] => []
  | c :: rest =>
    if c = '$' then
      match reference? rest with
      | some (reference, after) =>
        if after.length ≤ rest.length then (value reference).toList ++ interpolate value after
        else c :: interpolate value rest
      | none => c :: interpolate value rest
    else c :: interpolate value rest
termination_by cs.length
decreasing_by all_goals (simp only [List.length_cons] at *; omega)

/-- What a reference stands for. A variable without a value stands for nothing; only one that is not there gives way to the default. -/
def resolve (environment : OrderedMap String String) (earlier : OrderedMap String (Option String))
    (reference : Reference) : String :=
  match earlier.find? reference.name with
  | some value => value.getD ""
  | none => ((environment.find? reference.name).or reference.default).getD ""

/-- The variables of a file, the last value of each, with all references replaced. -/
def interpolated (environment : OrderedMap String String) (bindings : List Binding) :
    OrderedMap String (Option String) :=
  bindings.foldl
    (fun earlier binding =>
      earlier.insert binding.1 (binding.2.map fun value =>
        String.ofList (interpolate (resolve environment earlier) value.toList)))
    ∅

end EnvFile
end ParameterConfig
