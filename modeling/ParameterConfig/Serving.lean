import ParameterConfig.Headers
import ParameterConfig.Log.Record
import ParameterConfig.Service

/-!
# Serving requests

The state in which requests are served: the parameter service, the clients that are shared or held for the request in progress, the token provider and the headers in force. Everything an observer may notice is an event, and events are kept in their order. An action changes the state whether it succeeds or fails.
-/

namespace ParameterConfig

inductive Event where
  | opened (session : Session)
  | called (client : Client) (request : Request)
  | closed (client : Client)
  | logged (record : Log.Record)

/-- What clients are shared by: the kind of source and the profile it names. -/
abbrev SharedKey := SourceKind × Option String

structure ServingState where
  service : Service := {}
  shared : OrderedMap SharedKey Client := ∅
  held : OrderedMap Source Client := ∅
  provider : TokenProvider := .header tokenHeader
  bindings : Bindings := []
  trace : List Event := []

abbrev Serving := ExceptT Failure (StateM ServingState)

namespace Serving

variable {α : Type}

def ofExcept : Except Failure α → Serving α
  | .ok value => pure value
  | .error failure => throw failure

def emit (events : List Event) : Serving Unit :=
  modify fun state => { state with trace := state.trace ++ events }

def log (level : Log.Level) (event : String) (bound call : List (String × Json)) : Serving Unit :=
  emit [.logged (.of level event bound call)]

/-- Runs the second action after the first in any case. A failure of the second takes the place of the outcome of the first. -/
def ensuring (action : Serving α) (cleanup : Serving Unit) : Serving α :=
  ExceptT.mk fun state =>
    let (outcome, state) := action.run.run state
    match cleanup.run.run state with
    | (.error failure, state) => (.error failure, state)
    | (.ok (), state) => (outcome, state)

/-- What an observer learns of one action. -/
structure Observed (α : Type) where
  outcome : Except Failure α
  events : List Event

/-- Runs an action and keeps its events apart from those before it. -/
def observe (action : Serving α) (state : ServingState) : Observed α × ServingState :=
  let (outcome, state) := action.run.run { state with trace := [] }
  ({ outcome, events := state.trace }, state)

/-- Runs actions one after the other, failed ones included. -/
def observeAll : List (Serving α) → ServingState → List (Observed α) × ServingState
  | [], state => ([], state)
  | action :: rest, state =>
    let (observed, state) := observe action state
    let (more, state) := observeAll rest state
    (observed :: more, state)

end Serving
end ParameterConfig
