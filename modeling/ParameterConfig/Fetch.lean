import ParameterConfig.Clients
import ParameterConfig.Service.Pages

/-!
# Fetching parameters

All parameters below a path are read with the client of a source. A refusal of the service or a fault of the transport while pages are read becomes a fetch error that names the path; any other failure stays what it is.
-/

namespace ParameterConfig
namespace Fetch

/-- Reads all pages through a client. -/
def read (client : Client) (path : String) : Serving Reading := do
  let reading := (← get).service.readPages path none
  modify fun state => { state with service := reading.service }
  Serving.emit (reading.requests.map (.called client))
  return reading

def warn (path : String) (field : String) (value : Json) : Serving Unit :=
  Serving.log .warning "parameter_fetch_failed" [] [("path", .string path), (field, value)]

/-- The parameters below a path, or the failure to be reported for it. -/
def conclude (path : String) (reading : Reading) : Serving (List Parameter) := do
  match reading.outcome with
  | .ok parameters =>
    Serving.log .debug "parameters_fetched" []
      [("path", .string path), ("count", .ofNat parameters.length),
       ("pages", .ofNat reading.requests.length)]
    return parameters
  | .error (.refused code) =>
    warn path "error_code" code
    throw (Failure.fetchFailed path code)
  | .error (.transport fault) =>
    warn path "error" (.string fault.name)
    throw (Failure.fetchFailed path (.string fault.name))
  | .error failure => throw failure

/-- Fetches with a client that is held on to for later fetches from the same source. -/
def held (region : Option String) (path : String) (source : Source) : Serving (List Parameter) := do
  let client ← Clients.heldFor region source
  let reading ← read client path
  conclude path reading

/-- Fetches with a client that is not held on to. -/
def unheld (region : Option String) (path : String) (source : Source) :
    Serving (List Parameter) := do
  let client ← Clients.forSource region source
  let reading ← read client path
  conclude path reading

/-- A use of the fetcher. -/
inductive Step where
  | fetch (path : String) (source : Source) (holding : Bool)
  | close

/-- Performs a step; fetching gives the parameters. -/
def Step.perform (region : Option String) : Step → Serving (Option (List Parameter))
  | .fetch path source true => some <$> held region path source
  | .fetch path source false => some <$> unheld region path source
  | .close => do
    Clients.releaseHeld
    return none

end Fetch
end ParameterConfig
