import ParameterConfig.Credentials

/-!
# Credential sources and sessions

A credential source says whose identity a request to the parameter service uses: temporary credentials of the client, a named profile of this machine, or whatever identity the surroundings provide. A session is opened from a source and a region.
-/

namespace ParameterConfig

inductive SourceKind where
  | token
  | profile
  | ambient
deriving DecidableEq, Repr

namespace SourceKind

def all : List SourceKind := [.token, .profile, .ambient]

def name : SourceKind → String
  | .token => "token"
  | .profile => "profile"
  | .ambient => "default"

def ofName (name : String) : Except Failure SourceKind :=
  match all.find? (·.name = name) with
  | some kind => .ok kind
  | none => .error (.valueFault (Text.quoted name ++ " is not a valid CredentialKind"))

end SourceKind

structure Source where
  kind : SourceKind
  credentials : Option SessionCredentials := none
  profileName : Option String := none
deriving DecidableEq, Repr

namespace Source

def token (credentials : SessionCredentials) : Source :=
  { kind := .token, credentials := some credentials }

def profile (name : String) : Source :=
  { kind := .profile, profileName := some name }

def ambient : Source :=
  { kind := .ambient }

end Source

/-- Who a session acts as. -/
inductive Identity where
  | keys (credentials : SessionCredentials)
  | profile (name : Option String)
  | ambient
deriving DecidableEq, Repr

structure Session where
  identity : Identity
  region : Option String
deriving DecidableEq, Repr

namespace Source

def identity (source : Source) : Identity :=
  match source.kind, source.credentials with
  | .token, some credentials => .keys credentials
  | .token, none => .ambient
  | .profile, _ => .profile source.profileName
  | .ambient, _ => .ambient

def session (source : Source) (region : Option String) : Session :=
  { identity := source.identity, region }

end Source
end ParameterConfig
