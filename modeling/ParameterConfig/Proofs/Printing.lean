import ParameterConfig.CommandLine
import ParameterConfig.Proofs.Json.Indented
import ParameterConfig.Proofs.Likeness

/-!
# Printed environments

An environment whose property values are texts can be read back from what is printed of it. Everything it holds is found again under its name, in its order, and what is absent is told apart from what is empty. So no two such environments are printed alike.
-/

namespace ParameterConfig

/-! ### Values that are read back unchanged -/

namespace Json

theorem mergedItems_eq_map (items : List Json) : mergedItems items = items.map merged := by
  induction items with
  | nil => rfl
  | cons item rest ih => exact congrArg _ ih

theorem itemsNesting_le {items : List Json} {bound : Nat}
    (hbound : ∀ item ∈ items, item.nesting ≤ bound) : itemsNesting items ≤ bound := by
  induction items with
  | nil => exact Nat.zero_le bound
  | cons item rest ih =>
    obtain ⟨hitem, hrest⟩ := List.forall_mem_cons.mp hbound
    exact Nat.max_le.mpr ⟨hitem, ih hrest⟩

/-- A value without numbers that is read back unchanged and nests no deeper than the bound. -/
structure Plain (bound : Nat) (value : Json) : Prop where
  numberless : value.Numberless
  merged : value.merged = value
  nesting : value.nesting ≤ bound

namespace Plain

variable {bound : Nat}

theorem string (s : String) : Plain bound (.string s) :=
  ⟨trivial, rfl, Nat.zero_le bound⟩

theorem ofOptional (text : Option String) : Plain bound (.ofOptional text) := by
  cases text with
  | none => exact ⟨trivial, rfl, Nat.zero_le bound⟩
  | some s => exact string s

theorem array {items : List Json} (hitems : ∀ item ∈ items, Plain bound item) :
    Plain (bound + 1) (.array items) where
  numberless := itemsNumberless_iff.mpr fun item hitem => (hitems item hitem).numberless
  merged := by
    rw [Json.merged, mergedItems_eq_map]
    exact congrArg Json.array ((List.map_congr_left fun item hitem =>
      (hitems item hitem).merged).trans (List.map_id items))
  nesting := Nat.succ_le_succ (itemsNesting_le fun item hitem => (hitems item hitem).nesting)

theorem object {members : List (String × Json)} (hdistinct : (members.map Prod.fst).Nodup)
    (hmembers : ∀ member ∈ members, Plain bound member.2) : Plain (bound + 1) (.object members) where
  numberless := membersNumberless_iff.mpr fun member hmember =>
    (hmembers member hmember).numberless
  merged := by
    have hsame : mergedMembers members = members := by
      have hparts : ∀ member ∈ members, (member.1, member.2.merged) = id member :=
        fun member hmember => congrArg (Prod.mk member.1) (hmembers member hmember).merged
      rw [mergedMembers_eq_map, List.map_congr_left hparts, List.map_id]
    rw [Json.merged, hsame, ofMembers, OrderedMap.entries_ofList hdistinct]
  nesting := Nat.succ_le_succ (membersNesting_le fun member hmember =>
    (hmembers member hmember).nesting)

end Plain

/-! ### Reading parts of a value -/

def text? : Json → Option String
  | .string s => some s
  | _ => none

def optionalText? : Json → Option (Option String)
  | .null => some none
  | .string s => some (some s)
  | _ => none

def items? : Json → Option (List Json)
  | .array items => some items
  | _ => none

def members? : Json → Option (List (String × Json))
  | .object members => some members
  | _ => none

theorem optionalText?_ofOptional (text : Option String) :
    optionalText? (.ofOptional text) = some text := by
  cases text <;> rfl

end Json

/-! ### Environments of texts -/

theorem mapM_map_eq_some {α : Type u} {β : Type v} {written : α → β} {read : β → Option α}
    (hread : ∀ element, read (written element) = some element) (list : List α) :
    (list.map written).mapM read = some list := by
  induction list with
  | nil => rfl
  | cons element rest ih =>
    rw [List.map_cons, List.mapM_cons, hread, ih]
    rfl

namespace PropertySource

variable {source : PropertySource}

/-- Every value of the property source is a text. -/
def OfTexts (source : PropertySource) : Prop :=
  ∀ value ∈ source.source.values, ∃ s, value = .string s

/-- The property source with the name and the properties that are found in an object. -/
def ofJson? (value : Json) : Option PropertySource := do
  let members ← value.members?
  let name ← (Json.member? "name" members).bind Json.text?
  let entries ← (Json.member? "source" members).bind Json.members?
  return { name, source := .ofList entries }

theorem plain_toJson (htexts : source.OfTexts) : source.toJson.Plain 2 := by
  have hsource : (Json.object source.source.entries).Plain 1 := by
    refine .object source.source.distinct fun entry hentry => ?_
    obtain ⟨s, hs⟩ := htexts entry.2 (List.mem_map_of_mem hentry)
    exact hs ▸ .string s
  refine .object (by simp only [List.map_cons, List.map_nil]; decide) ?_
  simp only [List.forall_mem_cons]
  exact ⟨.string source.name, hsource, List.forall_mem_nil _⟩

theorem ofJson?_toJson (source : PropertySource) : ofJson? source.toJson = some source := by
  have hentries : OrderedMap.ofList source.source.entries = source.source :=
    OrderedMap.ext_entries (OrderedMap.entries_ofList source.source.distinct)
  show some ({ name := source.name, source := .ofList source.source.entries } : PropertySource) = _
  rw [hentries]

end PropertySource

namespace Environment

variable {environment : Environment}

/-- Every value of every property source is a text. -/
def OfTexts (environment : Environment) : Prop :=
  ∀ source ∈ environment.propertySources, source.OfTexts

/-- The environment whose parts are found in an object, each under its name. -/
def ofJson? (value : Json) : Option Environment := do
  let members ← value.members?
  let name ← (Json.member? "name" members).bind Json.text?
  let profiles ← (Json.member? "profiles" members).bind Json.items?
  let profiles ← profiles.mapM Json.text?
  let label ← (Json.member? "label" members).bind Json.optionalText?
  let version ← (Json.member? "version" members).bind Json.optionalText?
  let state ← (Json.member? "state" members).bind Json.optionalText?
  let sources ← (Json.member? "propertySources" members).bind Json.items?
  let propertySources ← sources.mapM PropertySource.ofJson?
  return { name, profiles, label, version, state, propertySources }

theorem plain_toJson (htexts : environment.OfTexts) : environment.toJson.Plain 4 := by
  have hprofiles : (Json.array (environment.profiles.map .string)).Plain 3 := by
    refine .array fun item hitem => ?_
    obtain ⟨s, _, rfl⟩ := List.mem_map.mp hitem
    exact .string s
  have hsources : (Json.array (environment.propertySources.map PropertySource.toJson)).Plain 3 := by
    refine .array fun item hitem => ?_
    obtain ⟨source, hsource, rfl⟩ := List.mem_map.mp hitem
    exact PropertySource.plain_toJson (htexts source hsource)
  refine .object (by simp only [List.map_cons, List.map_nil]; decide) ?_
  simp only [List.forall_mem_cons]
  exact ⟨.string environment.name, hprofiles, .ofOptional environment.label,
    .ofOptional environment.version, .ofOptional environment.state, hsources,
    List.forall_mem_nil _⟩

/-- Nothing of an environment is lost in the object that is printed. -/
theorem ofJson?_toJson (environment : Environment) : ofJson? environment.toJson = some environment := by
  have htext : ∀ s, Json.text? (.string s) = some s := fun _ => rfl
  have hprofiles : (environment.profiles.map Json.string).mapM Json.text? =
      some environment.profiles := mapM_map_eq_some htext environment.profiles
  have hsources : (environment.propertySources.map PropertySource.toJson).mapM
      PropertySource.ofJson? = some environment.propertySources :=
    mapM_map_eq_some PropertySource.ofJson?_toJson environment.propertySources
  simp [ofJson?, toJson, Json.members?, Json.member?, Json.text?, Json.items?,
    Json.optionalText?_ofOptional, hprofiles, hsources]

/-! ### What is printed -/

/-- A text in ASCII that is read as the object of the environment, from which the environment is recovered. -/
structure ReadBack (limits : Json.Limits) (environment : Environment) (printed : String) : Prop where
  ascii : ∀ c ∈ printed.toList, c.toNat < 0x80
  object : Json.ofChars? limits printed.toList = some environment.toJson
  recovered : (Json.ofChars? limits printed.toList).bind ofJson? = some environment

theorem readBack_of_space {limits : Json.Limits} (hdepth : 4 ≤ limits.depth)
    (htexts : environment.OfTexts) {after : String} (hascii : Json.Ascii after.toList)
    (hspace : Json.Token.Spelling [] after.toList) :
    ReadBack limits environment (environment.toJson.indented ++ after) := by
  have hplain := plain_toJson htexts
  have hprinted : (environment.toJson.indented ++ after).toList =
      Json.indentedChars 0 environment.toJson ++ after.toList := by
    rw [String.toList_append, Json.indented, String.toList_ofList]
  have hread : Json.ofChars? limits (environment.toJson.indented ++ after).toList =
      some environment.toJson := by
    rw [hprinted, Json.ofChars?_indented hplain.numberless hspace
      (Nat.le_trans hplain.nesting hdepth), hplain.merged]
  refine ⟨?_, hread, ?_⟩
  · rw [hprinted]
    exact Json.ascii_iff.mp
      (Json.ascii_append.mpr ⟨Json.ascii_indentedChars 0 _ hplain.numberless, hascii⟩)
  · rw [hread, Option.bind_some, ofJson?_toJson]

theorem ReadBack.unique {limits : Json.Limits} {first second : Environment} {printed : String}
    (hfirst : ReadBack limits first printed) (hsecond : ReadBack limits second printed) :
    first = second :=
  Option.some.inj (hfirst.recovered.symm.trans hsecond.recovered)

/-- An environment of texts is printed in ASCII and read back whole, with or without the line break that the command line prints behind it, and two of them are printed alike only when they are the same. -/
theorem printed_readable {limits : Json.Limits} (hdepth : 4 ≤ limits.depth)
    {environment : Environment} (htexts : environment.OfTexts) :
    ReadBack limits environment environment.toJson.indented ∧
      ReadBack limits environment (CommandLine.environmentText environment) ∧
      ∀ other : Environment, other.OfTexts → other ≠ environment →
        other.toJson.indented ≠ environment.toJson.indented ∧
          CommandLine.environmentText other ≠ CommandLine.environmentText environment := by
  have hobject : ∀ {any : Environment}, any.OfTexts → ReadBack limits any any.toJson.indented := by
    intro any hany
    have hread := readBack_of_space hdepth hany (rfl : Json.Ascii "".toList) .nil
    rwa [String.append_empty] at hread
  have htext : ∀ {any : Environment}, any.OfTexts →
      ReadBack limits any (CommandLine.environmentText any) := fun hany =>
    readBack_of_space hdepth hany (by decide) (.space (by decide) .nil)
  refine ⟨hobject htexts, htext htexts, fun other hother hne => ⟨fun hsame => ?_, fun hsame => ?_⟩⟩
  · exact hne ((hobject hother).unique (hsame ▸ hobject htexts))
  · exact hne ((htext hother).unique (hsame ▸ htext htexts))

/-- Quotes, escapes and characters beyond the first plane, no label but an empty version, no properties and properties out of order. -/
def unusual : Environment where
  name := "a\"\\\n\x00"
  profiles := ["é", "😀"]
  version := some ""
  propertySources :=
    [{ name := "" },
     { name := "p", source := { entries := [("z", .string "\x7f"), ("", .string "1")] } }]

theorem printed_readable_unusual :
    unusual.OfTexts ∧
      (Json.ofChars? ⟨4, 0⟩ (CommandLine.environmentText unusual).toList).bind ofJson? =
        some unusual := by
  have htexts : unusual.OfTexts := by
    refine List.forall_mem_cons.mpr ⟨List.forall_mem_nil _, List.forall_mem_singleton.mpr ?_⟩
    exact List.forall_mem_cons.mpr ⟨⟨_, rfl⟩, List.forall_mem_singleton.mpr ⟨_, rfl⟩⟩
  exact ⟨htexts, (printed_readable (Nat.le_refl 4) htexts).2.1.recovered⟩

end Environment
end ParameterConfig
