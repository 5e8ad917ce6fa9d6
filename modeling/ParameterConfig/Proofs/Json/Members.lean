import ParameterConfig.Proofs.Json.Assembly
import ParameterConfig.Proofs.OrderedMap

/-!
# Members of objects

Of several members with one name the last one counts, before they are made one and afterwards. An object whose members are texts is printed on one line in one of its spellings.
-/

namespace ParameterConfig
namespace Json

/-! ### The last member of a name -/

def lastMember? (name : String) (members : List (String × Json)) : Option Json :=
  member? name members.reverse

theorem find?_ofList (name : String) (members : List (String × Json)) :
    (OrderedMap.ofList members).find? name = lastMember? name members :=
  OrderedMap.find?_ofList members name

theorem lastMember?_ofMembers (name : String) (members : List (String × Json)) :
    lastMember? name (OrderedMap.ofList members).entries = lastMember? name members := by
  rw [← find?_ofList, OrderedMap.find?_ofList_entries, find?_ofList]

theorem merged_eq_string {value : Json} {s : String} :
    value.merged = .string s ↔ value = .string s := by
  cases value <;> simp [merged, ofMembers]

theorem mergedMembers_eq_map (members : List (String × Json)) :
    mergedMembers members = members.map fun member => (member.1, member.2.merged) := by
  induction members with
  | nil => rfl
  | cons member rest ih => exact congrArg _ ih

/-- A text that comes last with its name stays what it is when members are made one. -/
theorem lastMember?_mergedMembers {name s : String} {members : List (String × Json)} :
    lastMember? name (mergedMembers members) = some (.string s) ↔
      lastMember? name members = some (.string s) := by
  have hmerged : lastMember? name (mergedMembers members) =
      (lastMember? name members).map merged := by
    simp only [lastMember?, member?, mergedMembers_eq_map, ← List.map_reverse, List.find?_map,
      Option.map_map]
    rfl
  rw [hmerged]
  simp only [Option.map_eq_some_iff, merged_eq_string, exists_eq_right]

theorem lastMember?_filter {name : String} {names : List String} (hname : name ∈ names)
    (members : List (String × Json)) :
    lastMember? name (members.filter fun member => member.1 ∈ names) = lastMember? name members := by
  simp only [lastMember?, member?, ← List.filter_reverse, List.find?_filter]
  congr 2
  funext member
  by_cases hmember : member.1 = name
  · simp [hmember, hname]
  · simp [hmember]

/-! ### Members that are texts -/

namespace Token

variable {tokens : List Token} {cs : List Char}

theorem Spelling.textChars (hcs : Spelling tokens cs) (asciiOnly : Bool) (s : String) :
    Spelling (.text s :: tokens) (textChars asciiOnly s ++ cs) := by
  refine .cons ?_ hcs
  unfold Json.textChars
  rw [List.flatMap_def]
  exact .text (forms_textChar asciiOnly s.toList)

theorem Spelling.mark {c : Char} {token : Token} (hcs : Spelling tokens cs)
    (hmark : Spelt token [c]) : Spelling (token :: tokens) (c :: cs) :=
  .cons hmark hcs

end Token

def textMembers (members : List (String × String)) : List (String × Json) :=
  members.map fun member => (member.1, .string member.2)

/-- A member as it is written on a dense line, with whatever follows it. -/
theorem spelling_member {tokens : List Token} {cs : List Char} (member : String × String)
    (hcs : Token.Spelling tokens cs) :
    Token.Spelling (.text member.1 :: .colon :: .text member.2 :: tokens)
      (textChars false member.1 ++ ':' :: (textChars false member.2 ++ cs)) := by
  have hvalue := hcs.textChars false member.2
  have hcolon := hvalue.mark .colon
  exact hcolon.textChars false member.1

theorem spelling_restMembers (members : List (String × String)) :
    Token.Spelling (restMemberTokens (textMembers members))
      (restMembers .dense (textMembers members)) := by
  induction members with
  | nil => exact Token.Spelling.nil.mark .closeObject
  | cons member rest ih =>
    have hwritten : restMembers .dense (textMembers (member :: rest)) =
        ',' :: (textChars false member.1 ++ ':' :: (textChars false member.2 ++
          restMembers .dense (textMembers rest))) := by
      simp only [textMembers, List.map_cons, restMembers, lineChars, scalarChars, Layout.dense,
        List.append_assoc, List.cons_append, List.nil_append]
    rw [hwritten]
    exact (spelling_member member ih).mark .comma

theorem spelling_textMembers (members : List (String × String)) :
    Token.Spelling (Json.object (textMembers members)).tokens
      (lineChars .dense (.object (textMembers members))) := by
  cases members with
  | nil => exact (Token.Spelling.nil.mark .closeObject).mark .openObject
  | cons member rest =>
    have hwritten : lineChars .dense (.object (textMembers (member :: rest))) =
        '\x7b' :: (textChars false member.1 ++ ':' :: (textChars false member.2 ++
          restMembers .dense (textMembers rest))) := by
      simp only [textMembers, List.map_cons, lineChars, scalarChars, Layout.dense,
        List.append_assoc, List.cons_append, List.nil_append]
    rw [hwritten]
    exact (spelling_member member (spelling_restMembers rest)).mark .openObject

end Json
end ParameterConfig
