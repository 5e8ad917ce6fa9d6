import ParameterConfig.Repository

/-!
# Runs of a repository

Between requests the parameters of the service change, replies are prepared, and headers are bound. A run is a sequence of such steps and of requests.
-/

namespace ParameterConfig
namespace Repository

inductive Step where
  | findOne (query : Query)
  | put (name value : String)
  | delete (name : String)
  | prepare (replies : List PreparedReply)
  | bind (headers : Option Headers)
  | unbind

def changeService (change : Service → Service) : Serving (Option Environment) := do
  modify fun state => { state with service := change state.service }
  return none

def changeBindings (change : Bindings → Bindings) : Serving (Option Environment) := do
  modify fun state => { state with bindings := change state.bindings }
  return none

/-- Performs a step; a request gives the environment. -/
def Step.perform (repository : Repository) : Step → Serving (Option Environment)
  | .findOne query => some <$> repository.findOne query
  | .put name value =>
    changeService fun service => { service with store := service.store.insert name value }
  | .delete name => changeService fun service => { service with store := service.store.erase name }
  | .prepare replies =>
    changeService fun service => { service with script := service.script ++ replies }
  | .bind headers => changeBindings (·.bind headers)
  | .unbind => changeBindings Bindings.unbind

/-- All that is observed of a run, step by step, and the state after it. -/
def run (repository : Repository) (steps : List Step) (state : ServingState) :
    List (Serving.Observed (Option Environment)) × ServingState :=
  Serving.observeAll (steps.map (Step.perform repository)) state

end Repository
end ParameterConfig
