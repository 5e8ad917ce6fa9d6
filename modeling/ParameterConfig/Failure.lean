import ParameterConfig.Json

/-!
# Failures

Everything that can go wrong, by its cause. The library reports errors of its own with a message and details; below it, the parameter service may refuse a request or not be reached at all, ordinary faults come from malformed data and from the surroundings, a user may interrupt, and input may fail validation, which names the offending fields.
-/

namespace ParameterConfig

/-! ### Errors of the library -/

inductive ErrorKind where
  | general
  | configuration
  | credentialParse
  | provider
  | storeFetch
deriving DecidableEq, Repr

namespace ErrorKind

def all : List ErrorKind :=
  [.general, .configuration, .credentialParse, .provider, .storeFetch]

def name : ErrorKind → String
  | .general => "SsmConfigError"
  | .configuration => "ConfigurationError"
  | .credentialParse => "CredentialParseError"
  | .provider => "ProviderError"
  | .storeFetch => "StoreFetchError"

/-- The exit status of a command that ends with an error of this kind. -/
def exitCode : ErrorKind → Nat
  | .general => 127
  | .configuration | .credentialParse => 10
  | .provider | .storeFetch => 11

end ErrorKind

structure LibraryError where
  kind : ErrorKind
  message : String
  details : OrderedMap String Json := ∅

/-! ### Faults of the transport to the parameter service -/

inductive TransportFault where
  | endpointConnection
  | connectTimeout
  | readTimeout
  | connectionClosed
  | secureSocket
  | httpClient
  | paramValidation
  | profileNotFound
  | partialCredentials
  | noRegion
  | noCredentials
  | general
  | credentialRetrieval
deriving DecidableEq, Repr

namespace TransportFault

def all : List TransportFault :=
  [.endpointConnection, .connectTimeout, .readTimeout, .connectionClosed, .secureSocket,
   .httpClient, .paramValidation, .profileNotFound, .partialCredentials, .noRegion,
   .noCredentials, .general, .credentialRetrieval]

def name : TransportFault → String
  | .endpointConnection => "EndpointConnectionError"
  | .connectTimeout => "ConnectTimeoutError"
  | .readTimeout => "ReadTimeoutError"
  | .connectionClosed => "ConnectionClosedError"
  | .secureSocket => "SSLError"
  | .httpClient => "HTTPClientError"
  | .paramValidation => "ParamValidationError"
  | .profileNotFound => "ProfileNotFound"
  | .partialCredentials => "PartialCredentialsError"
  | .noRegion => "NoRegionError"
  | .noCredentials => "NoCredentialsError"
  | .general => "BotoCoreError"
  | .credentialRetrieval => "CredentialRetrievalError"

end TransportFault

/-! ### Ordinary faults -/

inductive Fault where
  | runtime
  | value
  | key
  | type
  | timeout
  | os
  | endOfInput
  | attribute
  | overflow
deriving DecidableEq, Repr

namespace Fault

def all : List Fault :=
  [.runtime, .value, .key, .type, .timeout, .os, .endOfInput, .attribute,
   .overflow]

def name : Fault → String
  | .runtime => "RuntimeError"
  | .value => "ValueError"
  | .key => "KeyError"
  | .type => "TypeError"
  | .timeout => "TimeoutError"
  | .os => "OSError"
  | .endOfInput => "EOFError"
  | .attribute => "AttributeError"
  | .overflow => "OverflowError"

end Fault

/-! ### Failed validation -/

inductive IssueKind where
  | missing
  | textExpected
  | wholeNumberExpected
  | wholeNumberUnreadable
  | wholeNumberTooLong
  | fractionGiven
  | finiteNumberExpected
  | truthValueExpected
  | truthValueUnreadable
  | malformedJson
  | objectExpected
deriving DecidableEq, Repr

def IssueKind.name : IssueKind → String
  | .missing => "missing"
  | .textExpected => "string_type"
  | .wholeNumberExpected => "int_type"
  | .wholeNumberUnreadable => "int_parsing"
  | .wholeNumberTooLong => "int_parsing_size"
  | .fractionGiven => "int_from_float"
  | .finiteNumberExpected => "finite_number"
  | .truthValueExpected => "bool_type"
  | .truthValueUnreadable => "bool_parsing"
  | .malformedJson => "json_invalid"
  | .objectExpected => "model_type"

/-- What is wrong, and with which field; with no field, the input as a whole is. -/
structure Issue where
  field : Option String
  kind : IssueKind
deriving DecidableEq, Repr

/-! ### All failures -/

inductive Failure where
  | library (error : LibraryError)
  | refused (code : Json)
  | transport (fault : TransportFault)
  | ordinary (fault : Fault) (message : String)
  | interrupted
  | invalid (issues : List Issue)

namespace Failure

/-- The name of the kind of failure. It is all that may be told about failures whose texts could repeat secrets. -/
def name : Failure → String
  | .library error => error.kind.name
  | .refused _ => "ClientError"
  | .transport fault => fault.name
  | .ordinary fault _ => fault.name
  | .interrupted => "KeyboardInterrupt"
  | .invalid _ => "ValidationError"

def valueFault (message : String) : Failure :=
  .ordinary .value message

def undecodableToken (reason : String) : Failure :=
  .library
    { kind := .credentialParse
      message := "Unable to parse client temporary credentials."
      details := .ofList [("error", .string reason)] }

def fetchFailed (path : String) (code : Json) : Failure :=
  .library
    { kind := .storeFetch
      message := "Failed to fetch parameters from the parameter store."
      details := .ofList [("path", .string path), ("error_code", code)] }

/-- A whole number has too many digits to be written. -/
def numberTooLong : Failure :=
  valueFault
    "Exceeds the limit (4300 digits) for integer string conversion; use sys.set_int_max_str_digits() to increase the limit"

/-- Fails for a value that cannot be written. -/
def checkWritable (value : Json) : Except Failure Unit :=
  if value.writable then .ok () else .error numberTooLong

/-- The members of an object; nothing else has members. -/
def membersOf : Json → Except Failure (List (String × Json))
  | .object members => .ok members
  | _ => .error (.ordinary .attribute "")

/-- The members of a member that may be missing. -/
def innerMembers (name : String) (members : List (String × Json)) :
    Except Failure (List (String × Json)) :=
  membersOf ((Json.member? name members).getD (.object []))

/-- The code of a refusal, which stands in the error member of its response. -/
def refusalCode (response : Json) : Except Failure Json := do
  let members ← membersOf response
  let _ ← innerMembers "ResponseMetadata" members
  let error ← innerMembers "Error" members
  return (Json.member? "Code" error).getD (.string "Unknown")

/-- The failure that a refusal of the service amounts to. A response that does not have the shape of a refusal is a fault of its own. -/
def ofRefusal (response : Json) : Failure :=
  match refusalCode response with
  | .ok code => .refused code
  | .error failure => failure

end Failure
end ParameterConfig
