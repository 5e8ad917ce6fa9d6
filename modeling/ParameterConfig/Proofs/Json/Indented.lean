import ParameterConfig.Proofs.Json.Members

/-!
# The indented layout

A value without numbers is printed, line by line and indented, in one of its spellings and in ASCII only: what the layout adds is a comma, a colon or white space, and what a text adds are escapes. So the value is read back from what is printed.
-/

namespace ParameterConfig
namespace Json

/-! ### Values without numbers -/

mutual

def Numberless : Json → Prop
  | .integer _ | .float _ => False
  | .array items => ItemsNumberless items
  | .object members => MembersNumberless members
  | _ => True

def ItemsNumberless : List Json → Prop
  | [] => True
  | item :: items => item.Numberless ∧ ItemsNumberless items

def MembersNumberless : List (String × Json) → Prop
  | [] => True
  | (_, value) :: members => value.Numberless ∧ MembersNumberless members

end

theorem itemsNumberless_iff {items : List Json} :
    ItemsNumberless items ↔ ∀ item ∈ items, item.Numberless := by
  induction items with
  | nil => simp [ItemsNumberless]
  | cons item rest ih => simp [ItemsNumberless, ih]

theorem membersNumberless_iff {members : List (String × Json)} :
    MembersNumberless members ↔ ∀ member ∈ members, member.2.Numberless := by
  induction members with
  | nil => simp [MembersNumberless]
  | cons member rest ih => simp [MembersNumberless, ih]

/-! ### One spelling of the tokens -/

namespace Token

variable {tokens : List Token} {cs : List Char}

theorem Spelling.newLine (hcs : Spelling tokens cs) (level : Nat) :
    Spelling tokens (newLine level ++ cs) := by
  refine .space (c := '\n') (by decide) ?_
  induction 2 * level with
  | zero => exact hcs
  | succ width ih => exact .space (c := ' ') (by decide) ih

/-- A member up to its value: a name on a line of its own, a colon and a space. -/
theorem Spelling.indentedName (hcs : Spelling tokens cs) (level : Nat) (name : String) :
    Spelling (.text name :: .colon :: tokens)
      (Json.newLine level ++ (Json.textChars true name ++ ':' :: ' ' :: cs)) := by
  have hcolon := (Spelling.space (c := ' ') (by decide) hcs).mark .colon
  exact (hcolon.textChars true name).newLine level

end Token

-- What stands behind a value comes with its own spelling, so that a container is put together from its end.
mutual

theorem spelling_indentedChars {tokens : List Token} {cs : List Char} (level : Nat) (value : Json)
    (hvalue : value.Numberless) (hcs : Token.Spelling tokens cs) :
    Token.Spelling (value.tokens ++ tokens) (indentedChars level value ++ cs) := by
  match value with
  | .null => exact .cons .null hcs
  | .bool true => exact .cons .true hcs
  | .bool false => exact .cons .false hcs
  | .string s => exact hcs.textChars true s
  | .array [] => exact (hcs.mark .closeArray).mark .openArray
  | .object [] => exact (hcs.mark .closeObject).mark .openObject
  | .array (item :: items) =>
    have hrest := spelling_indentedItems level items hvalue.2 hcs
    have hitem := spelling_indentedChars (level + 1) item hvalue.1 hrest
    have hopen := (hitem.newLine (level + 1)).mark .openArray
    simpa only [Json.tokens, indentedChars, List.cons_append, List.append_assoc] using hopen
  | .object ((name, value) :: members) =>
    have hrest := spelling_indentedMembers level members hvalue.2 hcs
    have hmember := spelling_indentedChars (level + 1) value hvalue.1 hrest
    have hopen := (hmember.indentedName (level + 1) name).mark .openObject
    simpa only [Json.tokens, indentedChars, List.cons_append, List.append_assoc,
      List.nil_append] using hopen

theorem spelling_indentedItems {tokens : List Token} {cs : List Char} (level : Nat)
    (items : List Json) (hitems : ItemsNumberless items) (hcs : Token.Spelling tokens cs) :
    Token.Spelling (restItemTokens items ++ tokens) (indentedItems level items ++ cs) := by
  match items with
  | [] =>
    have hclose := (hcs.mark .closeArray).newLine level
    simpa only [restItemTokens, indentedItems, List.cons_append, List.append_assoc,
      List.nil_append] using hclose
  | item :: items =>
    have hrest := spelling_indentedItems level items hitems.2 hcs
    have hitem := spelling_indentedChars (level + 1) item hitems.1 hrest
    have hcomma := (hitem.newLine (level + 1)).mark .comma
    simpa only [restItemTokens, indentedItems, List.cons_append, List.append_assoc] using hcomma

theorem spelling_indentedMembers {tokens : List Token} {cs : List Char} (level : Nat)
    (members : List (String × Json)) (hmembers : MembersNumberless members)
    (hcs : Token.Spelling tokens cs) :
    Token.Spelling (restMemberTokens members ++ tokens) (indentedMembers level members ++ cs) := by
  match members with
  | [] =>
    have hclose := (hcs.mark .closeObject).newLine level
    simpa only [restMemberTokens, indentedMembers, List.cons_append, List.append_assoc,
      List.nil_append] using hclose
  | (name, value) :: members =>
    have hrest := spelling_indentedMembers level members hmembers.2 hcs
    have hmember := spelling_indentedChars (level + 1) value hmembers.1 hrest
    have hcomma := (hmember.indentedName (level + 1) name).mark .comma
    simpa only [restMemberTokens, indentedMembers, List.cons_append, List.append_assoc,
      List.nil_append] using hcomma

end

/-- What is printed is read back, whatever white space comes behind it. -/
theorem ofChars?_indented {limits : Limits} {value : Json} {after : List Char}
    (hvalue : value.Numberless) (hafter : Token.Spelling [] after)
    (hdepth : value.nesting ≤ limits.depth) :
    ofChars? limits (indentedChars 0 value ++ after) = some value.merged := by
  have hspelling := spelling_indentedChars 0 value hvalue hafter
  rw [List.append_nil] at hspelling
  exact ofChars?_of_spelling hspelling hdepth

/-! ### ASCII only -/

abbrev Ascii (cs : List Char) : Prop :=
  cs.all fun c => c.toNat < 0x80

theorem ascii_iff {cs : List Char} : Ascii cs ↔ ∀ c ∈ cs, c.toNat < 0x80 := by
  simp only [Ascii, List.all_eq_true, decide_eq_true_eq]

theorem ascii_append {first second : List Char} :
    Ascii (first ++ second) ↔ Ascii first ∧ Ascii second := by
  rw [Ascii, List.all_append, Bool.and_eq_true]

theorem ascii_cons {c : Char} {cs : List Char} : Ascii (c :: cs) ↔ c.toNat < 0x80 ∧ Ascii cs := by
  rw [Ascii, List.all_cons, Bool.and_eq_true, decide_eq_true_eq]

theorem ascii_digitChar : ∀ n < 16, (Nat.digitChar n).toNat < 0x80 := by
  decide

theorem ascii_unitEscape {n : Nat} (hn : n < 0x10000) : Ascii (unitEscape n) := by
  unfold unitEscape
  rw [Text.hexDigits_four n hn]
  simp only [ascii_cons]
  exact ⟨by decide, by decide, ascii_digitChar _ (by omega), ascii_digitChar _ (by omega),
    ascii_digitChar _ (by omega), ascii_digitChar _ (by omega), rfl⟩

theorem ascii_codeEscape (c : Char) : Ascii (codeEscape c.toNat) := by
  have hvalid : c.toNat < 0xD800 ∨ 0xDFFF < c.toNat ∧ c.toNat < 0x110000 := c.valid
  unfold codeEscape
  by_cases hplane : c.toNat < 0x10000
  · rw [if_pos hplane]
    exact ascii_unitEscape hplane
  · rw [if_neg hplane]
    exact ascii_append.mpr ⟨ascii_unitEscape (by omega), ascii_unitEscape (by omega)⟩

theorem ascii_textChar (c : Char) : Ascii (textChar true c) := by
  unfold textChar
  repeat
    split
    · decide
  split
  · exact ascii_unitEscape (by omega)
  split
  · exact ascii_codeEscape c
  · rename_i hcode
    rw [Bool.true_and, decide_eq_true_eq] at hcode
    exact ascii_cons.mpr ⟨by omega, rfl⟩

theorem ascii_textChars (s : String) : Ascii (textChars true s) := by
  unfold textChars
  refine ascii_append.mpr ⟨ascii_cons.mpr ⟨by decide, ascii_iff.mpr fun c hc => ?_⟩, by decide⟩
  obtain ⟨written, _, hwritten⟩ := List.mem_flatMap.mp hc
  exact ascii_iff.mp (ascii_textChar written) c hwritten

theorem ascii_newLine (level : Nat) : Ascii (newLine level) := by
  refine ascii_cons.mpr ⟨by decide, ascii_iff.mpr fun c hc => ?_⟩
  rw [List.eq_of_mem_replicate hc]
  decide

mutual

theorem ascii_indentedChars (level : Nat) (value : Json) (hvalue : value.Numberless) :
    Ascii (indentedChars level value) := by
  match value with
  | .null | .bool true | .bool false | .array [] | .object [] =>
    unfold indentedChars
    decide
  | .string s => exact ascii_textChars s
  | .array (item :: items) =>
    simp only [indentedChars, List.cons_append, List.append_assoc, ascii_cons, ascii_append]
    exact ⟨by decide, ascii_newLine _, ascii_indentedChars _ item hvalue.1,
      ascii_indentedItems level items hvalue.2⟩
  | .object ((name, value) :: members) =>
    simp only [indentedChars, List.cons_append, List.append_assoc, List.nil_append, ascii_cons,
      ascii_append]
    exact ⟨by decide, ascii_newLine _, ascii_textChars name, by decide, by decide,
      ascii_indentedChars _ value hvalue.1, ascii_indentedMembers level members hvalue.2⟩

theorem ascii_indentedItems (level : Nat) (items : List Json) (hitems : ItemsNumberless items) :
    Ascii (indentedItems level items) := by
  match items with
  | [] => exact ascii_append.mpr ⟨ascii_newLine level, by decide⟩
  | item :: items =>
    simp only [indentedItems, List.cons_append, List.append_assoc, ascii_cons, ascii_append]
    exact ⟨by decide, ascii_newLine _, ascii_indentedChars _ item hitems.1,
      ascii_indentedItems level items hitems.2⟩

theorem ascii_indentedMembers (level : Nat) (members : List (String × Json))
    (hmembers : MembersNumberless members) : Ascii (indentedMembers level members) := by
  match members with
  | [] => exact ascii_append.mpr ⟨ascii_newLine level, by decide⟩
  | (name, value) :: members =>
    simp only [indentedMembers, List.cons_append, List.append_assoc, List.nil_append, ascii_cons,
      ascii_append]
    exact ⟨by decide, ascii_newLine _, ascii_textChars name, by decide, by decide,
      ascii_indentedChars _ value hmembers.1, ascii_indentedMembers level members hmembers.2⟩

end

end Json
end ParameterConfig
