import ParameterConfig.Fetch

/-!
# The repository

Environments are resolved profile by profile: the credential source of the moment is determined, the parameters below the profile's path are fetched with it, and they become one property source. The first failure ends the request. The clients held for the request are handed back in any case.
-/

namespace ParameterConfig

structure Repository where
  properties : Properties

/-- What a client of the configuration server asks for. Origins are not kept, so asking for them changes nothing. -/
structure Query where
  application : String
  profiles : Option String
  label : Option String := none
  includeOrigin : Bool := false

namespace Repository

def order (repository : Repository) : Int :=
  repository.properties.order

/-- The credentials of the client, if it sent a token that is not blank. -/
def clientCredentials : Serving (Option SessionCredentials) := do
  let state ← get
  let (token, provider) := state.provider.next state.bindings
  set { state with provider }
  match token with
  | none => return none
  | some token =>
    if (Text.trim token.toList).isEmpty then return none
    let credentials ← Serving.ofExcept (SessionCredentials.decode token)
    Serving.log .debug "client_credentials_resolved" []
      [("access_key_id", .string (masked credentials.accessKeyId))]
    return some credentials

/-- The source to use when the client sent no credentials. -/
def localSource (repository : Repository) : Source :=
  match repository.properties.profile with
  | some name => if name.isEmpty then .ambient else .profile name
  | none => .ambient

/-- The credential source of the request being served: the client's token, else the profile of the repository, else the ambient identity. -/
def resolve (repository : Repository) : Serving Source := do
  match ← clientCredentials with
  | some credentials => return .token credentials
  | none => return repository.localSource

/-- The fields that all records about a query carry. -/
def boundFields (query : Query) : List (String × Json) :=
  [("application", .string query.application), ("label", .ofOptional query.label)]

/-- One profile becomes one property source. -/
def serveProfile (repository : Repository) (query : Query) (profile : String) :
    Serving PropertySource := do
  let path := repository.properties.path query.application profile
  let source ← repository.resolve
  let parameters ← Fetch.held repository.properties.region path source
  let propertySource ← Serving.ofExcept (PropertySource.ofParameters path parameters)
  Serving.log .debug "property_source_built" (boundFields query)
    [("path", .string path), ("credentials", .string source.kind.name),
     ("properties", .ofNat propertySource.source.size)]
  return propertySource

def serveProfiles (repository : Repository) (query : Query) :
    List String → Serving (List PropertySource)
  | [] => return []
  | profile :: rest => do
    let propertySource ← repository.serveProfile query profile
    let more ← repository.serveProfiles query rest
    return propertySource :: more

def findOne (repository : Repository) (query : Query) : Serving Environment := do
  modify fun state => { state with held := ∅ }
  let profiles := splitProfiles query.profiles
  let propertySources ←
    Serving.ensuring (repository.serveProfiles query profiles) Clients.releaseHeld
  Serving.log .debug "environment_resolved" (boundFields query)
    [("profiles", .ofNat profiles.length)]
  return { name := query.application, profiles, label := query.label, propertySources }

end Repository
end ParameterConfig
