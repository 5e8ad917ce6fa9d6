import ParameterConfig.OrderedMap
import ParameterConfig.Text.Lowercase

/-!
# Request headers and token providers

The headers of the request being served are bound around it, and bindings nest. Only the innermost binding is consulted, letter case does not count, and of several headers that differ only in case the first one does. A token provider is where the token of a request comes from.
-/

namespace ParameterConfig

abbrev Headers := OrderedMap String (Option String)

/-- The bindings in force, innermost first. A binding may bind no headers at all. -/
abbrev Bindings := List (Option Headers)

namespace Headers

/-- The value of the first header with this name in any letter case. -/
def value? (headers : Headers) (name : String) : Option String :=
  let wanted := Text.lowercase name
  (headers.entries.find? fun entry => Text.lowercase entry.1 = wanted).bind Prod.snd

end Headers

namespace Bindings

def bind (bindings : Bindings) (headers : Option Headers) : Bindings :=
  headers :: bindings

/-- The bindings without the innermost one. -/
def unbind (bindings : Bindings) : Bindings :=
  bindings.tail

def value? (bindings : Bindings) (name : String) : Option String :=
  match bindings with
  | some headers :: _ => headers.value? name
  | _ => none

/-- What happens to the bindings around requests. -/
inductive Step where
  | bind (headers : Option Headers)
  | unbind

def Step.perform (bindings : Bindings) : Step → Bindings
  | .bind headers => bindings.bind headers
  | .unbind => bindings.unbind

/-- The bindings after steps one after the other. -/
def after (bindings : Bindings) (steps : List Step) : Bindings :=
  steps.foldl Step.perform bindings

end Bindings

def tokenHeader : String := "X-Config-Token"

inductive TokenProvider where
  | fixed (token : Option String)
  | header (name : String)
  | sequence (tokens : List (Option String))
deriving DecidableEq, Repr

namespace TokenProvider

/-- The token of the next request, and the provider after it. -/
def next (provider : TokenProvider) (bindings : Bindings) : Option String × TokenProvider :=
  match provider with
  | .fixed token => (token, provider)
  | .header name => (bindings.value? name, provider)
  | .sequence [] => (none, provider)
  | .sequence (token :: rest) => (token, .sequence rest)

end TokenProvider
end ParameterConfig
