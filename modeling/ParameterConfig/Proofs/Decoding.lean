import ParameterConfig.Proofs.Base64.Strict
import ParameterConfig.Proofs.Credentials

/-!
# What a token may be

Every token is either read or rejected for one of three reasons, and which of these it is can be told from its characters: first whether they are ASCII, then whether they are letters and equals signs that fit, then whether the octets carried are an object with the three members. The object may be written in any way, and members of other names do not matter.
-/

namespace ParameterConfig
namespace SessionCredentials

/-! ### Rejections -/

/-- The token is rejected with the message that is the same for all tokens, and with the reason as the only detail. -/
def Rejected (token reason : String) : Prop :=
  ∃ error : LibraryError, decode token = .error (.library error) ∧
    error.kind = .credentialParse ∧
    error.message = "Unable to parse client temporary credentials." ∧
    error.details.entries = [("error", .string reason)]

theorem decode_eq_ok {token : String} {credentials : SessionCredentials} :
    decode token = .ok credentials ↔ read token = .ok credentials := by
  unfold decode
  cases read token <;> simp [Except.mapError]

theorem rejected_iff {token : String} {rejection : Rejection} :
    Rejected token rejection.name ↔ read token = .error rejection := by
  have hname : ∀ other : Rejection, other.name = rejection.name → other = rejection := by
    cases rejection <;> intro other <;> cases other <;> decide
  have hentries : ∀ reason : String,
      (OrderedMap.ofList [("error", Json.string reason)]).entries = [("error", .string reason)] :=
    fun reason => rfl
  unfold Rejected decode Failure.undecodableToken
  constructor
  · rintro ⟨error, hdecode, _, _, hdetails⟩
    cases hread : read token with
    | ok credentials =>
      rw [hread] at hdecode
      cases hdecode
    | error other =>
      rw [hread] at hdecode
      obtain rfl := Failure.library.inj (Except.error.inj hdecode)
      rw [hentries] at hdetails
      have hsame : other.name = rejection.name := by simpa using hdetails
      rw [hname other hsame]
  · intro hread
    rw [hread]
    exact ⟨_, rfl, rfl, rfl, hentries _⟩

/-! ### Octets that are credentials -/

/-- The octets are a UTF-8 text that is read as an object, and its members describe the credentials. -/
def WrittenIn (credentials : SessionCredentials) (octets : List UInt8) : Prop :=
  ∃ text : String, ∃ members, octets = text.toUTF8.data.toList ∧
    Json.ofChars? limits text.toList = some (.object members) ∧ credentials.DescribedBy members

theorem ofOctets?_eq_some {octets : List UInt8} {credentials : SessionCredentials} :
    ofOctets? octets = some credentials ↔ credentials.WrittenIn octets := by
  constructor
  · intro hread
    cases htext : String.fromUTF8? ⟨octets.toArray⟩ with
    | none =>
      unfold ofOctets? at hread
      rw [htext] at hread
      cases hread
    | some text =>
      obtain rfl := fromUTF8?_eq_some.mp htext
      obtain ⟨members, hmembers⟩ :=
        ofJsonText_eq_valid.mp ((ofOctets?_toUTF8 text credentials).mp hread)
      exact ⟨text, members, rfl, hmembers⟩
  · rintro ⟨text, members, rfl, hmembers⟩
    exact (ofOctets?_toUTF8 text credentials).mpr (ofJsonText_eq_valid.mpr ⟨members, hmembers⟩)

/-! ### Objects that describe credentials -/

def wireNames : List String :=
  ["AccessKeyId", "SecretAccessKey", "SessionToken"]

theorem exists_describedBy {members : List (String × Json)} :
    (∃ credentials : SessionCredentials, credentials.DescribedBy members) ↔
      ∀ name ∈ wireNames, ∃ s, Json.lastMember? name members = some (.string s) := by
  constructor
  · rintro ⟨credentials, hid, hsecret, htoken⟩
    simp [wireNames, hid, hsecret, htoken]
  · intro hnames
    obtain ⟨id, hid⟩ := hnames "AccessKeyId" (by decide)
    obtain ⟨secret, hsecret⟩ := hnames "SecretAccessKey" (by decide)
    obtain ⟨token, htoken⟩ := hnames "SessionToken" (by decide)
    exact ⟨⟨id, secret, token⟩, hid, hsecret, htoken⟩

theorem describedBy_filter {credentials : SessionCredentials} {members : List (String × Json)} :
    credentials.DescribedBy (members.filter fun member => member.1 ∈ wireNames) ↔
      credentials.DescribedBy members := by
  have hlast : ∀ name ∈ wireNames,
      Json.lastMember? name (members.filter fun member => member.1 ∈ wireNames) =
        Json.lastMember? name members :=
    fun name hname => Json.lastMember?_filter hname members
  constructor
  · rintro ⟨hid, hsecret, htoken⟩
    rw [hlast _ (by decide)] at hid hsecret htoken
    exact ⟨hid, hsecret, htoken⟩
  · rintro ⟨hid, hsecret, htoken⟩
    rw [← hlast _ (by decide)] at hid hsecret htoken
    exact ⟨hid, hsecret, htoken⟩

/-! ### Every token -/

theorem isAscii_iff {cs : List Char} : isAscii cs = true ↔ ∀ c ∈ cs, c.toNat < 0x80 := by
  simp only [isAscii, List.all_eq_true, decide_eq_true_eq]

theorem isAscii_of_fits {letters : List Char} {fills : Nat}
    (hfits : Base64.Fits letters fills) :
    isAscii (letters ++ List.replicate fills '=') = true := by
  refine isAscii_iff.mpr (List.forall_mem_append.mpr ⟨?_, ?_⟩)
  · exact fun c hc => Base64.toNat_lt_of_mem (hfits.known c hc)
  · intro c hc
    rw [List.eq_of_mem_replicate hc]
    decide

theorem read_eq_notAscii {token : String} :
    read token = .error .notAscii ↔ ∃ c ∈ Text.trim token.toList, 0x80 ≤ c.toNat := by
  have hsome : (∃ c ∈ Text.trim token.toList, 0x80 ≤ c.toNat) ↔
      ¬ isAscii (Text.trim token.toList) = true := by
    rw [isAscii_iff]
    push Not
    rfl
  rw [hsome]
  unfold read
  by_cases hascii : isAscii (Text.trim token.toList) = true
  · simp only [hascii, if_true, not_true_eq_false, iff_false]
    split
    · exact nofun
    · split <;> exact nofun
  · rw [if_neg hascii]
    exact iff_of_true rfl hascii

/-- A token whose letters and equals signs fit is what the octets that it carries amount to. -/
theorem read_of_fits {token : String} {letters : List Char} {fills : Nat}
    (htrim : Text.trim token.toList = letters ++ List.replicate fills '=')
    (hfits : Base64.Fits letters fills) :
    ∃ octets, Base64.Carries letters octets ∧
      read token = (ofOctets? octets).elim (.error .notCredentials) .ok := by
  obtain ⟨octets, hdecode, hcarries⟩ := hfits.decode?_filledUp
  refine ⟨octets, hcarries, ?_⟩
  unfold read
  simp only [htrim, isAscii_of_fits hfits, if_true, hdecode]
  cases ofOctets? octets <;> rfl

theorem read_eq_notBase64 {token : String}
    (hascii : ∀ c ∈ Text.trim token.toList, c.toNat < 0x80) :
    read token = .error .notBase64 ↔
      ¬ ∃ letters fills, Text.trim token.toList = letters ++ List.replicate fills '=' ∧
        Base64.Fits letters fills := by
  constructor
  · rintro hread ⟨letters, fills, htrim, hfits⟩
    obtain ⟨octets, _, hoctets⟩ := read_of_fits htrim hfits
    rw [hread] at hoctets
    cases hcredentials : ofOctets? octets <;> rw [hcredentials] at hoctets <;> cases hoctets
  · intro hnone
    have hdecode : Base64.decode? (Base64.filledUp (Text.trim token.toList)) = none := by
      cases hread : Base64.decode? (Base64.filledUp (Text.trim token.toList)) with
      | none => rfl
      | some octets => exact absurd (Base64.fits_of_decode?_filledUp hread) hnone
    unfold read
    simp only [isAscii_iff.mpr hascii, if_true, hdecode]

/-- Every token is read, or rejected for one of three reasons. It is rejected as a value when it has a character beyond ASCII; else as an encoding when it is not a row of letters with equals signs that fit; else as a record when the octets that the letters carry are not an object with texts under the three names. -/
theorem decode_classified (token : String) :
    ((∃ credentials, decode token = .ok credentials) ∨
      ∃ reason ∈ ["ValueError", "Error", "ValidationError"], Rejected token reason) ∧
    (Rejected token "ValueError" ↔ ∃ c ∈ Text.trim token.toList, 0x80 ≤ c.toNat) ∧
    ((∀ c ∈ Text.trim token.toList, c.toNat < 0x80) →
      (Rejected token "Error" ↔
        ¬ ∃ letters fills, Text.trim token.toList = letters ++ List.replicate fills '=' ∧
          Base64.Fits letters fills)) ∧
    ∀ letters fills, Text.trim token.toList = letters ++ List.replicate fills '=' →
      Base64.Fits letters fills →
        ∃ octets, (∀ other, Base64.Carries letters other ↔ other = octets) ∧
          (Rejected token "ValidationError" ↔
            ¬ ∃ credentials : SessionCredentials, credentials.WrittenIn octets) ∧
          ∀ credentials, decode token = .ok credentials ↔ credentials.WrittenIn octets := by
  refine ⟨?_, ?_, ?_, ?_⟩
  · cases hread : read token with
    | ok credentials => exact .inl ⟨credentials, decode_eq_ok.mpr hread⟩
    | error rejection =>
      refine .inr ⟨rejection.name, ?_, rejected_iff.mpr hread⟩
      cases rejection <;> decide
  · exact rejected_iff.trans read_eq_notAscii
  · exact fun hascii => rejected_iff.trans (read_eq_notBase64 hascii)
  · intro letters fills htrim hfits
    obtain ⟨octets, hcarries, hread⟩ := read_of_fits htrim hfits
    refine ⟨octets, fun other => ⟨fun hother => hother.unique hcarries, ?_⟩, ?_, ?_⟩
    · rintro rfl
      exact hcarries
    · have hrejected : Rejected token "ValidationError" ↔ read token = .error .notCredentials :=
        @rejected_iff token .notCredentials
      have hnone : (¬ ∃ credentials : SessionCredentials, credentials.WrittenIn octets) ↔
          ofOctets? octets = none := by
        simp only [← ofOctets?_eq_some, Option.eq_none_iff_forall_ne_some, not_exists, ne_eq]
      rw [hrejected, hnone, hread]
      cases ofOctets? octets <;> simp
    · intro credentials
      rw [decode_eq_ok, hread, ← ofOctets?_eq_some]
      cases ofOctets? octets <;> simp

theorem decode_classified_empty_object :
    Base64.Fits ['e', '3', '0'] 1 ∧ Base64.Carries ['e', '3', '0'] [0x7b, 0x7d] ∧
      Rejected " e30=\n" "ValidationError" := by
  have hfirst : 'e' ∈ Base64.alphabet := by decide
  have hsecond : '3' ∈ Base64.alphabet := by decide
  have hthird : '0' ∈ Base64.alphabet := by decide
  have hknown : ∀ c ∈ ['e', '3', '0'], c ∈ Base64.alphabet := by
    simp [hfirst, hsecond, hthird]
  have hfits : Base64.Fits ['e', '3', '0'] 1 :=
    ⟨hknown, by decide, by decide, by decide, by decide⟩
  have hcarries : Base64.Carries ['e', '3', '0'] [0x7b, 0x7d] :=
    ⟨[false, false], by decide, by decide⟩
  refine ⟨hfits, hcarries, ?_⟩
  obtain ⟨octets, hoctets, hrejected, _⟩ :=
    (decode_classified " e30=\n").2.2.2 ['e', '3', '0'] 1 (by decide) hfits
  obtain rfl := (hoctets _).mp hcarries
  refine hrejected.mpr ?_
  rintro ⟨credentials, hwritten⟩
  have hbraces : Json.Token.Spelling (Json.object []).tokens "\x7b\x7d".toList :=
    .cons .openObject (.cons .closeObject .nil)
  have hvalid : ofJsonText "\x7b\x7d" = .valid credentials :=
    (ofOctets?_toUTF8 _ _).mp (ofOctets?_eq_some.mpr hwritten)
  have hdescribed := (ofJsonText_of_spelling hbraces nofun).mp hvalid
  cases hdescribed.accessKeyId

/-! ### Every spelling of an object -/

theorem decode_tokenOf {text : String} {credentials : SessionCredentials} :
    decode (tokenOf text) = .ok credentials ↔ ofJsonText text = .valid credentials := by
  rw [decode_eq_ok, read_tokenOf, ← ofOctets?_toUTF8]
  cases ofOctets? text.toUTF8.data.toList <;> simp

/-- However an object is spelt, its token is read just when the last members of the three names are texts, and these are the credentials then. Another object with the same members of these names, whatever others it has, has a token that is decoded the same. -/
theorem decode_spelling (members : List (String × Json)) (text : String)
    (hspelling : Json.Token.Spelling (Json.object members).tokens text.toList)
    (hnesting : ∀ member ∈ members, member.2.nesting ≤ 100) :
    ((∃ credentials, decode (tokenOf text) = .ok credentials) ↔
      ∀ name ∈ wireNames, ∃ s, Json.lastMember? name members = some (.string s)) ∧
    (∀ credentials, decode (tokenOf text) = .ok credentials ↔
      credentials.DescribedBy members) ∧
    ∀ others : List (String × Json), ∀ otherText : String,
      Json.Token.Spelling (Json.object others).tokens otherText.toList →
      (∀ member ∈ others, member.2.nesting ≤ 100) →
      (others.filter fun member => member.1 ∈ wireNames) =
        (members.filter fun member => member.1 ∈ wireNames) →
      decode (tokenOf otherText) = decode (tokenOf text) := by
  have hdecode : ∀ credentials, decode (tokenOf text) = .ok credentials ↔
      credentials.DescribedBy members :=
    fun credentials => decode_tokenOf.trans (ofJsonText_of_spelling hspelling hnesting)
  refine ⟨?_, hdecode, ?_⟩
  · simp only [hdecode, exists_describedBy]
  · intro others otherText hother hnest hsame
    have hoctets : ofOctets? otherText.toUTF8.data.toList = ofOctets? text.toUTF8.data.toList := by
      ext credentials
      rw [ofOctets?_toUTF8, ofOctets?_toUTF8, ofJsonText_of_spelling hother hnest,
        ofJsonText_of_spelling hspelling hnesting, ← describedBy_filter, hsame, describedBy_filter]
    unfold decode
    rw [read_tokenOf, read_tokenOf, hoctets]

/-- A key id whose only character is written by its code point, with space around it. -/
theorem decode_spelling_by_code :
    decode (tokenOf ("\x7b\"AccessKeyId\": \"\\u0041\" ,\"SecretAccessKey\":\"\"," ++
      "\"SessionToken\":\"\"\x7d\n")) = .ok ⟨"A", "", ""⟩ := by
  have hcode : Json.Token.Form 'A' ['\\', 'u', '0', '0', '4', '1'] :=
    .code (rfl : Text.hexQuad? '0' '0' '4' '1' = some 0x41) rfl rfl
  have hspace : ' ' ∈ [' ', '\t', '\n', '\r'] := by decide
  have hend : Json.Token.Spelling [.closeObject] "\x7d\n".toList :=
    .cons .closeObject (.space (by decide) .nil)
  have htoken := (Json.spelling_member ("SessionToken", "") hend).mark .comma
  have hsecret := (Json.spelling_member ("SecretAccessKey", "") htoken).mark .comma
  have hvalue := Json.Token.Spelling.cons
    (.text (.cons hcode .nil) : Json.Token.Spelt (.text "A") _) (hsecret.space hspace)
  have hobject := (((hvalue.space hspace).mark .colon).textChars false
    "AccessKeyId").mark .openObject
  refine ((decode_spelling [("AccessKeyId", .string "A"), ("SecretAccessKey", .string ""),
    ("SessionToken", .string "")] _ ?_ (by decide)).2.1 _).mpr ⟨rfl, rfl, rfl⟩
  exact hobject

end SessionCredentials
end ParameterConfig
