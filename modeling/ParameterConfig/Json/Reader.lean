import ParameterConfig.Json.Token

/-!
# Reading JSON

Tokens are assembled into one value with a stack of the containers that are open. A container goes on the stack with its first element, so empty ones do not count against the depth limit. Reading succeeds when the tokens end right after one complete value.
-/

namespace ParameterConfig
namespace Json

/-- A container whose next element is being read; what it holds so far stands in reverse. -/
inductive Frame where
  | array (items : List Json)
  | object (members : List (String × Json)) (name : String)

/-- What may come next. -/
inductive Mode where
  | value
  | firstItem
  | firstName
  | nextName (members : List (String × Json))
  | colon (members : List (String × Json)) (name : String)
  | complete (value : Json)

/-- The open containers, innermost first, and what may come next. -/
structure Assembly where
  stack : List Frame
  mode : Mode

structure Limits where
  depth : Nat
  wholeDigits : Nat

namespace Assembly

/-- The first token of a value. -/
def begin? (stack : List Frame) : Token → Option Assembly
  | .scalar value => some ⟨stack, .complete value⟩
  | .text value => some ⟨stack, .complete (.string value)⟩
  | .openArray => some ⟨stack, .firstItem⟩
  | .openObject => some ⟨stack, .firstName⟩
  | _ => none

/-- A token after a complete element of the innermost container. -/
def continue? (stack : List Frame) (value : Json) : Token → Option Assembly
  | .comma =>
    match stack with
    | .array items :: outer => some ⟨.array (value :: items) :: outer, .value⟩
    | .object members name :: outer => some ⟨outer, .nextName ((name, value) :: members)⟩
    | [] => none
  | .closeArray =>
    match stack with
    | .array items :: outer => some ⟨outer, .complete (.array (value :: items).reverse)⟩
    | _ => none
  | .closeObject =>
    match stack with
    | .object members name :: outer =>
      some ⟨outer, .complete (.ofMembers ((name, value) :: members).reverse)⟩
    | _ => none
  | _ => none

def step? (depth : Nat) (assembly : Assembly) (token : Token) : Option Assembly :=
  match assembly.mode, token with
  | .value, token => begin? assembly.stack token
  | .firstItem, .closeArray => some ⟨assembly.stack, .complete (.array [])⟩
  | .firstItem, token =>
    if assembly.stack.length < depth then begin? (.array [] :: assembly.stack) token else none
  | .firstName, .closeObject => some ⟨assembly.stack, .complete (.object [])⟩
  | .firstName, .text name =>
    if assembly.stack.length < depth then some ⟨assembly.stack, .colon [] name⟩ else none
  | .nextName members, .text name => some ⟨assembly.stack, .colon members name⟩
  | .colon members name, .colon => some ⟨.object members name :: assembly.stack, .value⟩
  | .complete value, token => continue? assembly.stack value token
  | _, _ => none

def run? (depth : Nat) (assembly : Assembly) : List Token → Option Assembly
  | [] => some assembly
  | token :: rest => (step? depth assembly token).bind fun next => run? depth next rest

def result? (assembly : Assembly) : Option Json :=
  match assembly.stack, assembly.mode with
  | [], .complete value => some value
  | _, _ => none

end Assembly

/-- Exactly one value, with space around and within. -/
def ofChars? (limits : Limits) (cs : List Char) : Option Json := do
  let tokens ← Token.ofChars? limits.wholeDigits cs
  let assembly ← Assembly.run? limits.depth ⟨[], .value⟩ tokens
  assembly.result?

end Json
end ParameterConfig
