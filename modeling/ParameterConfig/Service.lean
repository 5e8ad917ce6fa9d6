import ParameterConfig.Environment
import ParameterConfig.Session
import ParameterConfig.Text.Numeral

/-!
# The parameter service

A service stores named values and hands them out page by page: all entries whose name starts with the path asked for, sorted by name. Prepared replies may come before those of the store: refusals, faults, or whole responses of any shape. Sessions and clients can be refused by what is known of this machine.
-/

namespace ParameterConfig

/-- What the service does about a request before it looks into its store. -/
inductive PreparedReply where
  | failure (failure : Failure)
  | response (response : Json)
  | fromStore

structure Service where
  store : OrderedMap String String := ∅
  pageSize : Nat := 10
  pageSize_pos : 0 < pageSize := by decide
  script : List PreparedReply := []
  localProfiles : Option (List String) := none
  requireRegion : Bool := false
  failingCloses : List Int := []
  built : Nat := 0

structure Client where
  number : Nat
  session : Session
deriving DecidableEq, Repr

/-- Where the next page starts: at a place that the store named, or at whatever a response said. -/
inductive PageToken where
  | offset (start : Int)
  | given (token : Json)

/-- A request for the decrypted parameters at and below a path. -/
structure Request where
  path : String
  token : Option PageToken := none

structure Page where
  parameters : List Parameter
  next : Option PageToken

def PageToken.toJson : PageToken → Json
  | .offset start => .string (toString start)
  | .given token => token

namespace Request

def toJson (request : Request) : Json :=
  .object
    ([("Path", .string request.path), ("Recursive", .bool true), ("WithDecryption", .bool true)] ++
      (request.token.map fun token => ("NextToken", token.toJson)).toList)

end Request

/-! ### Reading a response -/

namespace Page

def parameter? : Json → Except Failure Parameter
  | .object members =>
    match Json.member? "Name" members, Json.member? "Value" members with
    | some name, some value => .ok { name, value }
    | _, _ => .error (.ordinary .key "")
  | _ => .error (.ordinary .type "")

/-- The elements that a parameters member holds. Texts and objects hold characters and names, which are no parameters. -/
def parameterList : Json → Except Failure (List Json)
  | .array items => .ok items
  | .string s => .ok (s.toList.map fun c => .string (String.singleton c))
  | .object members => .ok (members.map fun entry => .string entry.1)
  | _ => .error (.ordinary .type "")

/-- The page that a response amounts to. A token that is missing or empty means that no page follows. -/
def ofResponse : Json → Except Failure Page
  | .object members => do
    let items ← parameterList ((Json.member? "Parameters" members).getD (.array []))
    let parameters ← items.mapM parameter?
    let next := (Json.member? "NextToken" members).filter Json.isGiven
    return { parameters, next := next.map .given }
  | _ => .error (.ordinary .attribute "")

end Page

namespace Service

/-! ### Sessions and clients -/

def knowsProfile (service : Service) (name : String) : Bool :=
  match service.localProfiles with
  | none => true
  | some names => names.contains name

/-- A session as a named profile needs the profile on this machine. -/
def checkProfile (service : Service) (session : Session) : Except Failure Unit :=
  match session.identity with
  | .profile (some name) =>
    if service.knowsProfile name then .ok () else .error (.transport .profileNotFound)
  | _ => .ok ()

def hasRegion (session : Session) : Bool :=
  session.region.any fun region => !region.isEmpty

/-- Builds the next client for a session. -/
def connect (service : Service) (session : Session) : Except Failure (Client × Service) := do
  service.checkProfile session
  if service.requireRegion && !hasRegion session then
    throw (.transport .noRegion)
  let number := service.built + 1
  return ({ number, session }, { service with built := number })

/-- Closing a client may fail after the fact. -/
def closing (service : Service) (client : Client) : Except Failure Unit :=
  if service.failingCloses.contains client.number then .error (.ordinary .runtime "") else .ok ()

/-! ### Pages of the store -/

def below (path : String) (name : String) : Bool :=
  path.toList.isPrefixOf name.toList

/-- The entries whose name starts with the path, by name. -/
def entriesBelow (service : Service) (path : String) : List (String × String) :=
  (service.store.entries.filter fun entry => below path entry.1).mergeSort fun first second =>
    first.1 ≤ second.1

/-- A position in a list of this length; negative ones count from its end. -/
def position (length : Nat) (index : Int) : Nat :=
  if index < 0 then (index + length).toNat else min index.toNat length

/-- The elements from one position up to another. -/
def window {α : Type} (items : List α) (start stop : Int) : List α :=
  let first := position items.length start
  (items.take (position items.length stop)).drop first

def integerToken (token : Json) : Except Failure Int :=
  match token with
  | .string s =>
    (Text.integer s).mapError fun fault => .valueFault (fault.message s)
  | .integer n => .ok n
  | .bool value => .ok (if value then 1 else 0)
  | .float x =>
    match x with
    | .finite .. => .ok x.truncated
    | .infinite _ => .error (.ordinary .overflow "")
    | .notANumber => .error (.valueFault "cannot convert float NaN to integer")
  | _ => .error (.ordinary .type "")

def startOf : Option PageToken → Except Failure Int
  | none => .ok 0
  | some (.offset start) => .ok start
  | some (.given token) => integerToken token

/-- The page of the store that starts at a place. -/
def storePage (service : Service) (path : String) (start : Int) : Page :=
  let entries := service.entriesBelow path
  let stop := start + service.pageSize
  { parameters := (window entries start stop).map fun entry => .ofText entry.1 entry.2
    next := if stop < entries.length then some (.offset stop) else none }

def storeReply (service : Service) (request : Request) : Except Failure Page :=
  (startOf request.token).map fun start => service.storePage request.path start

/-- The reply to a request, and the service after it. -/
def reply (service : Service) (request : Request) : Except Failure Page × Service :=
  match service.script with
  | [] => (service.storeReply request, service)
  | prepared :: script =>
    let service := { service with script }
    match prepared with
    | .failure failure => (.error failure, service)
    | .response response => (Page.ofResponse response, service)
    | .fromStore => (service.storeReply request, service)

end Service
end ParameterConfig
