import ParameterConfig.Serving

/-!
# Clients for credential sources

Clients for profiles and for the ambient identity are built once and shared from then on. A client for a token is built for one request: it is held while the request lasts, so that later profiles of the request find it again, and closed with it.
-/

namespace ParameterConfig
namespace Clients

/-- Opens a session for the source and builds a client over it. -/
def build (region : Option String) (source : Source) : Serving Client := do
  let session := source.session region
  Serving.emit [.opened session]
  let (client, service) ← Serving.ofExcept ((← get).service.connect session)
  modify fun state => { state with service }
  return client

def sharedKey (source : Source) : SharedKey :=
  (source.kind, source.profileName)

/-- The client for a source: a new one for a token, otherwise the shared one. -/
def forSource (region : Option String) (source : Source) : Serving Client := do
  if source.kind = .token then
    build region source
  else
    match (← get).shared.find? (sharedKey source) with
    | some client => return client
    | none =>
      let client ← build region source
      modify fun state => { state with shared := state.shared.insert (sharedKey source) client }
      return client

/-- The client held for a source, built and held from now on if there is none. -/
def heldFor (region : Option String) (source : Source) : Serving Client := do
  match (← get).held.find? source with
  | some client => return client
  | none =>
    let client ← forSource region source
    modify fun state => { state with held := state.held.insert source client }
    return client

/-- Hands a client back. Clients of tokens are closed, shared ones stay open. -/
def release (source : Source) (client : Client) : Serving Unit := do
  if source.kind = .token then
    Serving.emit [.closed client]
    Serving.ofExcept ((← get).service.closing client)

def releaseAll : List (Source × Client) → Serving Unit
  | [] => pure ()
  | (source, client) :: rest => do
    release source client
    releaseAll rest

/-- Hands back the clients held, in the order in which they came in. -/
def releaseHeld : Serving Unit := do
  releaseAll (← get).held.entries
  modify fun state => { state with held := ∅ }

/-- A use of clients outside a request. -/
inductive Step where
  | acquire (source : Source)
  | release (source : Source) (client : Client)

/-- Performs a step; acquiring gives the client. -/
def Step.perform (region : Option String) : Step → Serving (Option Client)
  | .acquire source => some <$> forSource region source
  | .release source client => do
    Clients.release source client
    return none

end Clients
end ParameterConfig
