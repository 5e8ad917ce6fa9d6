import ParameterConfig.Base64
import ParameterConfig.Json.Printer
import ParameterConfig.Json.Reader
import ParameterConfig.Text.Blank
import ParameterConfig.Text.Quoted
import ParameterConfig.Validation

/-!
# Temporary credentials

Credentials that a client sends along with a request: three texts, written as a JSON object whose UTF-8 octets travel as a Base64 token. Only the key id may be shown, and in logs no more than its first four characters.
-/

namespace ParameterConfig

structure SessionCredentials where
  accessKeyId : String
  secretAccessKey : String
  sessionToken : String
deriving DecidableEq, Repr

namespace SessionCredentials

def ofFields (fields : OrderedMap String Json) : Validated SessionCredentials :=
  SessionCredentials.mk <$> Field.required Field.text fields "AccessKeyId"
    <*> Field.required Field.text fields "SecretAccessKey"
    <*> Field.required Field.text fields "SessionToken"

/-- What the JSON text of credentials may amount to. -/
def limits : Json.Limits :=
  { depth := 200, wholeDigits := 4300 }

def ofJsonText (text : String) : Validated SessionCredentials :=
  match Json.ofChars? limits text.toList with
  | none => .issues [⟨none, .malformedJson⟩]
  | some (.object members) => ofFields (.ofList members)
  | some _ => .issues [⟨none, .objectExpected⟩]

def toJson (credentials : SessionCredentials) : Json :=
  .object
    [("AccessKeyId", .string credentials.accessKeyId),
     ("SecretAccessKey", .string credentials.secretAccessKey),
     ("SessionToken", .string credentials.sessionToken)]

def toJsonText (credentials : SessionCredentials) : String :=
  credentials.toJson.line .dense

/-- The token that carries the credentials. -/
def encode (credentials : SessionCredentials) : String :=
  String.ofList (Base64.encode credentials.toJsonText.toUTF8.data.toList)

/-- Why a token cannot be read. -/
inductive Rejection where
  | notAscii
  | notBase64
  | notCredentials
deriving DecidableEq, Repr

/-- The name under which the reason is reported. -/
def Rejection.name : Rejection → String
  | .notAscii => "ValueError"
  | .notBase64 => "Error"
  | .notCredentials => "ValidationError"

/-- The credentials written in UTF-8 octets. -/
def ofOctets? (octets : List UInt8) : Option SessionCredentials :=
  match String.fromUTF8? ⟨octets.toArray⟩ with
  | none => none
  | some text =>
    match ofJsonText text with
    | .valid credentials => some credentials
    | .issues _ => none

def isAscii (cs : List Char) : Bool :=
  cs.all fun c => c.toNat < 0x80

/-- Reads a token, blanks around it and missing equals signs at its end allowed for. -/
def read (token : String) : Except Rejection SessionCredentials :=
  let cs := Text.trim token.toList
  if isAscii cs then
    match Base64.decode? (Base64.filledUp cs) with
    | none => .error .notBase64
    | some octets =>
      match ofOctets? octets with
      | none => .error .notCredentials
      | some credentials => .ok credentials
  else .error .notAscii

def decode (token : String) : Except Failure SessionCredentials :=
  (read token).mapError fun rejection => Failure.undecodableToken rejection.name

/-- The credentials with all secrets left out. -/
def shown (credentials : SessionCredentials) : String :=
  "SessionCredentials(access_key_id=" ++ Text.quoted credentials.accessKeyId ++ ")"

end SessionCredentials

/-- A text of more than four characters keeps four of them, a shorter one none. -/
def masked (s : String) : String :=
  let cs := s.toList
  if cs.length ≤ 4 then "***" else String.ofList (cs.take 4) ++ "***"

end ParameterConfig
