import ParameterConfig.Credentials
import ParameterConfig.Proofs.Base64
import ParameterConfig.Proofs.Blank
import ParameterConfig.Proofs.Json.Members
import ParameterConfig.Proofs.OrderedMap

/-!
# Tokens read back

A token is made in three layers: the credentials become a JSON text, the text becomes octets, and the octets become letters. Each layer is undone by its reader, whatever characters the credentials hold: the text that is printed is one of the spellings in which an object of these members is read. Blanks around a token and equals signs missing at its end are no obstacle, because no letter is blank and the length of a whole token is known.
-/

namespace ParameterConfig

namespace Validated

variable {α β : Type}

theorem map_eq_valid {f : α → β} {part : Validated α} {value : β} :
    f <$> part = .valid value ↔ ∃ x, part = .valid x ∧ f x = value := by
  cases part <;> simp [Functor.map, Validated.map]

theorem seq_eq_valid {first : Validated (α → β)} {second : Validated α} {value : β} :
    first <*> second = .valid value ↔
      ∃ f x, first = .valid f ∧ second = .valid x ∧ f x = value := by
  cases first <;> cases second <;> simp [Seq.seq, both, Validated.map]

end Validated

namespace SessionCredentials

def members (credentials : SessionCredentials) : List (String × String) :=
  [("AccessKeyId", credentials.accessKeyId), ("SecretAccessKey", credentials.secretAccessKey),
   ("SessionToken", credentials.sessionToken)]

theorem toJson_eq (credentials : SessionCredentials) :
    credentials.toJson = .object (Json.textMembers credentials.members) := rfl

/-! ### The layers -/

theorem required_text_eq_valid {fields : OrderedMap String Json} {name s : String} :
    Field.required Field.text fields name = .valid s ↔ fields.find? name = some (.string s) := by
  unfold Field.required
  cases hfound : fields.find? name with
  | none => simp
  | some value => cases value <;> simp [Field.text, Field.ofResult]

/-- The last members of the three names are texts, and these are the credentials. -/
structure DescribedBy (credentials : SessionCredentials) (members : List (String × Json)) :
    Prop where
  accessKeyId : Json.lastMember? "AccessKeyId" members = some (.string credentials.accessKeyId)
  secretAccessKey :
    Json.lastMember? "SecretAccessKey" members = some (.string credentials.secretAccessKey)
  sessionToken : Json.lastMember? "SessionToken" members = some (.string credentials.sessionToken)

theorem ofFields_eq_valid {credentials : SessionCredentials} {members : List (String × Json)} :
    ofFields (.ofList members) = .valid credentials ↔ credentials.DescribedBy members := by
  simp only [ofFields, Validated.seq_eq_valid, Validated.map_eq_valid, required_text_eq_valid,
    Json.find?_ofList]
  constructor
  · rintro ⟨_, token, ⟨_, secret, ⟨id, hid, rfl⟩, hsecret, rfl⟩, htoken, rfl⟩
    exact ⟨hid, hsecret, htoken⟩
  · rintro ⟨hid, hsecret, htoken⟩
    exact ⟨_, _, ⟨_, _, ⟨_, hid, rfl⟩, hsecret, rfl⟩, htoken, rfl⟩

theorem ofJsonText_eq_valid {text : String} {credentials : SessionCredentials} :
    ofJsonText text = .valid credentials ↔
      ∃ members, Json.ofChars? limits text.toList = some (.object members) ∧
        credentials.DescribedBy members := by
  unfold ofJsonText
  split
  · rename_i hnone
    simp [hnone]
  · rename_i members hmembers
    simp [hmembers, ofFields_eq_valid]
  · rename_i value hother hvalue
    have hobject : ∀ members, value ≠ .object members := hother
    simp [hvalue, hobject]

/-- An object is read from any spelling of it, and what counts are its last members. -/
theorem ofJsonText_of_spelling {members : List (String × Json)} {text : String}
    (hspelling : Json.Token.Spelling (Json.object members).tokens text.toList)
    (hnesting : ∀ member ∈ members, member.2.nesting ≤ 100) {credentials : SessionCredentials} :
    ofJsonText text = .valid credentials ↔ credentials.DescribedBy members := by
  have hdepth : (Json.object members).nesting ≤ limits.depth := by
    have hmembers := Json.membersNesting_le hnesting
    show Json.membersNesting members + 1 ≤ 200
    omega
  have hread : Json.ofChars? limits text.toList =
      some (.object (OrderedMap.ofList (Json.mergedMembers members)).entries) :=
    Json.ofChars?_of_spelling hspelling hdepth
  have hlast : ∀ name s,
      Json.lastMember? name (OrderedMap.ofList (Json.mergedMembers members)).entries =
        some (.string s) ↔ Json.lastMember? name members = some (.string s) := by
    intro name s
    rw [Json.lastMember?_ofMembers, Json.lastMember?_mergedMembers]
  rw [ofJsonText_eq_valid]
  constructor
  · rintro ⟨found, hfound, hid, hsecret, htoken⟩
    obtain rfl := Json.object.inj (Option.some.inj (hread.symm.trans hfound))
    exact ⟨(hlast _ _).mp hid, (hlast _ _).mp hsecret, (hlast _ _).mp htoken⟩
  · rintro ⟨hid, hsecret, htoken⟩
    exact ⟨_, hread, (hlast _ _).mpr hid, (hlast _ _).mpr hsecret, (hlast _ _).mpr htoken⟩

theorem ofJsonText_toJsonText (credentials : SessionCredentials) :
    ofJsonText credentials.toJsonText = .valid credentials := by
  have hspelling : Json.Token.Spelling (Json.object (Json.textMembers credentials.members)).tokens
      credentials.toJsonText.toList := by
    rw [toJsonText, Json.line, String.toList_ofList, toJson_eq]
    exact Json.spelling_textMembers credentials.members
  have hnesting : ∀ member ∈ Json.textMembers credentials.members, member.2.nesting ≤ 100 := by
    intro member hmember
    obtain ⟨text, _, rfl⟩ := List.mem_map.mp hmember
    exact Nat.zero_le 100
  exact (ofJsonText_of_spelling hspelling hnesting).mpr ⟨rfl, rfl, rfl⟩

theorem fromUTF8?_eq_some {octets : List UInt8} {text : String} :
    String.fromUTF8? ⟨octets.toArray⟩ = some text ↔ octets = text.toUTF8.data.toList := by
  constructor
  · intro hread
    unfold String.fromUTF8? at hread
    split at hread
    · obtain rfl := Option.some.inj hread
      rfl
    · cases hread
  · rintro rfl
    rw [Array.toArray_toList]
    exact dif_pos text.isValidUTF8

theorem ofOctets?_toUTF8 (text : String) (credentials : SessionCredentials) :
    ofOctets? text.toUTF8.data.toList = some credentials ↔
      ofJsonText text = .valid credentials := by
  unfold ofOctets?
  rw [fromUTF8?_eq_some.mpr rfl]
  cases hread : ofJsonText text <;> simp [hread]

theorem ofOctets?_toJsonText (credentials : SessionCredentials) :
    ofOctets? credentials.toJsonText.toUTF8.data.toList = some credentials :=
  (ofOctets?_toUTF8 _ _).mpr (ofJsonText_toJsonText credentials)

/-! ### Tokens -/

/-- What is read of octets is what is read of their token, even when some of its equals signs are missing. -/
theorem read_octets {octets : List UInt8} {before kept after : String} {dropped : Nat}
    (hbefore : Blank before) (hafter : Blank after)
    (hkept : Base64.encode octets = kept.toList ++ List.replicate dropped '=') :
    read (before ++ kept ++ after) =
      (ofOctets? octets).elim (.error .notCredentials) .ok := by
  have hletters : ∀ c ∈ kept.toList, Base64.IsLetter c := by
    intro c hc
    have hmem : c ∈ Base64.encode octets := by
      rw [hkept]
      exact List.mem_append_left _ hc
    exact Base64.isLetter_of_mem_encode hmem
  have htrim : Text.trim (before ++ kept ++ after).toList = kept.toList := by
    rw [String.toList_append, String.toList_append]
    exact Text.trim_between_blanks hbefore (fun c hc => (hletters c hc).isBlank) hafter
  have hascii : isAscii kept.toList = true := by
    unfold isAscii
    rw [List.all_eq_true]
    exact fun c hc => decide_eq_true (hletters c hc).toNat_lt
  unfold read
  simp only [htrim, hascii, if_true, Base64.filledUp_of_append hkept, Base64.decode?_encode]
  cases ofOctets? octets <;> rfl

theorem read_kept {credentials : SessionCredentials} {before kept after : String} {dropped : Nat}
    (hbefore : Blank before) (hafter : Blank after)
    (hkept : credentials.encode = kept ++ String.ofList (List.replicate dropped '=')) :
    read (before ++ kept ++ after) = .ok credentials := by
  have hencoded : Base64.encode credentials.toJsonText.toUTF8.data.toList =
      kept.toList ++ List.replicate dropped '=' := by
    have hchars := congrArg String.toList hkept
    rwa [encode, String.toList_ofList, String.toList_append, String.toList_ofList] at hchars
  rw [read_octets hbefore hafter hencoded, ofOctets?_toJsonText]
  rfl

def tokenOf (text : String) : String :=
  String.ofList (Base64.encode text.toUTF8.data.toList)

theorem read_tokenOf (text : String) :
    read (tokenOf text) =
      (ofOctets? text.toUTF8.data.toList).elim (.error .notCredentials) .ok := by
  have hblank : Blank "" := fun c hc => nomatch hc
  have hwhole : Base64.encode text.toUTF8.data.toList =
      (tokenOf text).toList ++ List.replicate 0 '=' := by
    rw [tokenOf, String.toList_ofList, List.replicate_zero, List.append_nil]
  have hread := read_octets hblank hblank hwhole
  rwa [String.empty_append, String.append_empty] at hread

theorem read_encode (credentials : SessionCredentials) :
    read credentials.encode = .ok credentials := by
  have hread := read_tokenOf credentials.toJsonText
  rwa [ofOctets?_toJsonText] at hread

/-- Credentials come back from their token, with any blanks around it and without any of the equals signs at its end, and from their JSON text. No two credentials have the same token. -/
theorem decode_encode (credentials : SessionCredentials) :
    (∀ before kept after : String, ∀ dropped : Nat, Blank before → Blank after →
      credentials.encode = kept ++ String.ofList (List.replicate dropped '=') →
        decode (before ++ kept ++ after) = .ok credentials) ∧
    ofJsonText credentials.toJsonText = .valid credentials ∧
    ∀ other : SessionCredentials, other.encode = credentials.encode → other = credentials := by
  refine ⟨?_, ofJsonText_toJsonText credentials, ?_⟩
  · intro before kept after dropped hbefore hafter hkept
    unfold decode
    rw [read_kept hbefore hafter hkept]
    rfl
  · intro other hencode
    have hread := read_encode other
    rw [hencode, read_encode credentials] at hread
    exact (Except.ok.inj hread).symm

/-- A token that ends in equals signs, read without the last one and between blanks. -/
theorem decode_encode_unfilled :
    let credentials : SessionCredentials := ⟨"\x7f", "é", "\"\\"⟩
    ∃ kept, credentials.encode = kept ++ "=" ∧
      decode (" " ++ kept ++ "\n") = .ok credentials := by
  intro credentials
  have hspace : Blank " " := by
    intro c hc
    obtain rfl : c = ' ' := by simpa using hc
    decide
  have hnewline : Blank "\n" := by
    intro c hc
    obtain rfl : c = '\n' := by simpa using hc
    decide
  have hkept : credentials.encode =
      String.ofList credentials.encode.toList.dropLast ++
        String.ofList (List.replicate 1 '=') := by
    decide +kernel
  exact ⟨_, hkept, (decode_encode credentials).1 " " _ "\n" 1 hspace hnewline hkept⟩

end SessionCredentials
end ParameterConfig
