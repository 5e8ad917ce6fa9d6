import ParameterConfig.Proofs.Fetching
import ParameterConfig.Proofs.Reference

/-!
# Names that flatten to the same key

A property source has one key for each flattened name, in the place where it comes first, and the last parameter with a key gives it its value. The store hands out its entries by name, so of those whose names differ in nothing but dots and slashes below the path the greatest one is kept, and no others are lost. `collisions_resolved` says so of any list of parameters and of all that a fetch brings from a store.
-/

namespace ParameterConfig

open Serving

/-! ### Dots and slashes -/

def DotOrSlash (c d : Char) : Prop :=
  c = d ∨ c = '.' ∧ d = '/' ∨ c = '/' ∧ d = '.'

/-- Two texts that differ in nothing but dots and slashes. -/
def SameButMarks (first second : String) : Prop :=
  List.Forall₂ DotOrSlash first.toList second.toList

theorem dotted_eq_dotted_iff {first second : List Char} :
    dotted first = dotted second ↔ List.Forall₂ DotOrSlash first second := by
  have hmarks : ∀ c d : Char,
      (if c = '/' then '.' else c) = (if d = '/' then '.' else d) ↔ DotOrSlash c d := by
    intro c d
    unfold DotOrSlash
    split <;> split <;> simp_all [eq_comm]
  unfold dotted
  rw [← List.forall₂_eq_eq_eq, List.forall₂_map_left_iff, List.forall₂_map_right_iff]
  exact ⟨List.Forall₂.imp fun c d => (hmarks c d).mp, List.Forall₂.imp fun c d => (hmarks c d).mpr⟩

theorem slash_not_mem_dotted (cs : List Char) : '/' ∉ dotted cs := by
  intro hslash
  obtain ⟨c, _, hc⟩ := List.mem_map.mp hslash
  split at hc
  · cases hc
  · rename_i hne
    exact hne hc

theorem map_dotted {cs : List Char} (hcs : '.' ∉ cs) :
    (dotted cs).map (fun c => if c = '.' then '/' else c) = cs := by
  unfold dotted
  rw [List.map_map]
  refine List.map_congr_left (g := id) (fun c hc => ?_) |>.trans (List.map_id cs)
  have hdot : c ≠ '.' := fun heq => hcs (heq ▸ hc)
  by_cases hslash : c = '/'
  · simp [hslash]
  · simp [hslash, hdot]

theorem append_lt_append_iff (front : List Char) {first second : List Char} :
    front ++ first < front ++ second ↔ first < second := by
  induction front with
  | nil => rfl
  | cons c front ih =>
    rw [List.cons_append, List.cons_append, List.cons_lt_cons_iff, ih]
    simp

/-- Where two such texts differ first, the lesser one has a dot and the greater one a slash. -/
theorem lt_iff_of_marks {first second : List Char} (hsame : List.Forall₂ DotOrSlash first second) :
    first < second ↔
      ∃ front rest other, first = front ++ '.' :: rest ∧ second = front ++ '/' :: other := by
  induction hsame with
  | nil => simp
  | @cons c d cs ds hmark hrest ih =>
    rw [List.cons_lt_cons_iff]
    constructor
    · rintro (hless | ⟨rfl, hless⟩)
      · rcases hmark with rfl | ⟨rfl, rfl⟩ | ⟨rfl, rfl⟩
        · exact absurd hless (Char.lt_irrefl c)
        · exact ⟨[], cs, ds, rfl, rfl⟩
        · exact absurd hless (by decide)
      · obtain ⟨front, rest, other, rfl, rfl⟩ := ih.mp hless
        exact ⟨c :: front, rest, other, rfl, rfl⟩
    · rintro ⟨front, rest, other, hfirst, hsecond⟩
      cases front with
      | nil =>
        obtain ⟨rfl, rfl⟩ := List.cons.inj hfirst
        obtain ⟨rfl, rfl⟩ := List.cons.inj hsecond
        exact .inl (by decide)
      | cons e front =>
        obtain ⟨rfl, rfl⟩ := List.cons.inj hfirst
        obtain ⟨rfl, rfl⟩ := List.cons.inj hsecond
        exact .inr ⟨rfl, ih.mpr ⟨front, rest, other, rfl, rfl⟩⟩

/-! ### Keys of entries -/

theorem flattenName_eq_iff (path rest other : String) :
    flattenName path (path ++ rest) = flattenName path (path ++ other) ↔
      SameButMarks rest other := by
  rw [flattenName_append, flattenName_append, String.ofList_inj]
  exact dotted_eq_dotted_iff

/-- Looked for from behind, an entry that is sought is found when no greater one is. -/
theorem find?_reverse_eq_some_iff {entries : List (String × String)}
    (hsorted : entries.Pairwise fun first second => first.1 < second.1)
    (sought : String × String → Bool) {entry : String × String} :
    entries.reverse.find? sought = some entry ↔
      entry ∈ entries ∧ sought entry = true ∧
        ∀ other ∈ entries, sought other = true → other.1 ≤ entry.1 := by
  rw [List.find?_eq_some_iff_append]
  constructor
  · rintro ⟨hsought, behind, before, hsplit, hnone⟩
    have hentries : entries = before.reverse ++ entry :: behind.reverse := by
      rw [← List.reverse_reverse entries, hsplit]
      simp
    rw [hentries, List.pairwise_append] at hsorted
    refine ⟨by simp [hentries], hsought, fun other hother hfound => ?_⟩
    rw [hentries, List.mem_append, List.mem_cons] at hother
    rcases hother with hbefore | rfl | hbehind
    · exact Std.le_of_lt (hsorted.2.2 other hbefore entry List.mem_cons_self)
    · exact String.le_refl _
    · have hnot := hnone other (List.mem_reverse.mp hbehind)
      rw [hfound] at hnot
      cases hnot
  · rintro ⟨hmem, hsought, hgreatest⟩
    obtain ⟨before, behind, rfl⟩ := List.append_of_mem hmem
    refine ⟨hsought, behind.reverse, before.reverse, by simp, fun other hother => ?_⟩
    rw [List.mem_reverse] at hother
    cases hfound : sought other with
    | false => rfl
    | true =>
      have hle := hgreatest other (by simp [hother]) hfound
      rw [List.pairwise_append, List.pairwise_cons] at hsorted
      exact absurd (hsorted.2.1.1 other hother) (String.not_lt.mpr hle)

namespace PropertySource

/-- How parameters have been entered into a property source. -/
structure Entered (path : String) (given : List (String × Json))
    (propertySource : PropertySource) : Prop where
  name : propertySource.name = "aws:ssm:parameter:" ++ path
  /-- Its keys are the flattened names, each once, in the order in which they first occur. -/
  keys : propertySource.source.keys =
    (given.map fun parameter => flattenName path parameter.1).eraseDups
  /-- The last of the parameters with a key gives the value. -/
  last : ∀ front parameter back, given = front ++ parameter :: back →
    (∀ later ∈ back, flattenName path later.1 ≠ flattenName path parameter.1) →
      propertySource.source.find? (flattenName path parameter.1) = some parameter.2

/-- What becomes of the entries of a store below a path. -/
structure Collated (store : OrderedMap String String) (path : String)
    (parameters : List Parameter) (source : OrderedMap String Json) : Prop where
  /-- Two of them share a key just when their names differ in nothing but dots and slashes behind the path. -/
  shared : ∀ rest text other otherText, (path ++ rest, text) ∈ store.entries →
    (path ++ other, otherText) ∈ store.entries →
      (flattenName path (path ++ rest) = flattenName path (path ++ other) ↔
        SameButMarks rest other)
  /-- A key has the value of the entry with the greatest of the names that share it. -/
  kept : ∀ key value, source.find? key = some value ↔
    ∃ rest text, (path ++ rest, text) ∈ store.entries ∧
      flattenName path (path ++ rest) = key ∧ value = .string text ∧
        ∀ other otherText, (path ++ other, otherText) ∈ store.entries →
          SameButMarks rest other → path ++ other ≤ path ++ rest
  /-- The greater of two such names has a slash, and the lesser one a dot, where they differ first. -/
  greater : ∀ rest text other otherText, (path ++ rest, text) ∈ store.entries →
    (path ++ other, otherText) ∈ store.entries → SameButMarks rest other →
      (path ++ rest < path ++ other ↔ ∃ front back more,
        rest.toList = front ++ '.' :: back ∧ other.toList = front ++ '/' :: more)
  noSlash : ∀ key ∈ source.keys, '/' ∉ key.toList
  /-- There are as many keys as entries just when no two names differ in nothing but that. -/
  size : source.size = parameters.length ↔
    ∀ rest text other otherText, (path ++ rest, text) ∈ store.entries →
      (path ++ other, otherText) ∈ store.entries → SameButMarks rest other → rest = other
  /-- The name of an entry without dots behind the path can be told from its key. -/
  recovered : ∀ rest text, (path ++ rest, text) ∈ store.entries → '.' ∉ rest.toList →
    flattenName path (path ++ rest) ∈ source.keys ∧
      path ++ rest =
        path ++ (flattenName path (path ++ rest)).map fun c => if c = '.' then '/' else c

theorem entered_ofParameters (path : String) (given : List (String × Json)) :
    Entered path given
      { name := nameOf path
        source := .ofList (given.map fun entry => (flattenName path entry.1, entry.2)) } where
  name := rfl
  keys := by
    rw [OrderedMap.keys_ofList, List.map_map]
    rfl
  last := by
    rintro front parameter back rfl hlast
    have hnone : (back.map fun entry => (flattenName path entry.1, entry.2)).reverse.find?
        (fun pair => pair.1 = flattenName path parameter.1) = none := by
      rw [List.find?_eq_none]
      intro pair hpair
      obtain ⟨later, hlater, rfl⟩ := List.mem_map.mp (List.mem_reverse.mp hpair)
      simpa using hlast later hlater
    dsimp only
    rw [OrderedMap.find?_ofList, List.map_append, List.map_cons, List.reverse_append,
      List.reverse_cons, List.append_assoc, List.find?_append, hnone]
    simp

end PropertySource

namespace Service

variable {service : Service} {path : String}

theorem mem_entriesBelow_iff {rest text : String} :
    (path ++ rest, text) ∈ service.entriesBelow path ↔
      (path ++ rest, text) ∈ service.store.entries := by
  rw [(entriesBelow_perm service path).mem_iff, List.mem_filter]
  simp [below]

theorem forall_mem_entriesBelow {holds : String × String → Prop} :
    (∀ entry ∈ service.entriesBelow path, holds entry) ↔
      ∀ rest text, (path ++ rest, text) ∈ service.store.entries → holds (path ++ rest, text) := by
  constructor
  · exact fun hall rest text hmem => hall _ (mem_entriesBelow_iff.mpr hmem)
  · rintro hall ⟨name, text⟩ hentry
    obtain ⟨rest, rfl⟩ := exists_append_of_mem_entriesBelow hentry
    exact hall rest text (mem_entriesBelow_iff.mp hentry)

theorem nodup_names_entriesBelow (service : Service) (path : String) :
    ((service.entriesBelow path).map Prod.fst).Nodup := by
  refine List.pairwise_map.mpr ((entriesBelow_sorted service path).imp fun hless heq => ?_)
  rw [heq] at hless
  exact Std.lt_irrefl hless

/-- The entries below a path have keys of their own just when no two of their names differ in nothing but dots and slashes. -/
theorem nodup_keys_entriesBelow_iff :
    ((service.entriesBelow path).map fun entry => flattenName path entry.1).Nodup ↔
      ∀ rest text other otherText, (path ++ rest, text) ∈ service.store.entries →
        (path ++ other, otherText) ∈ service.store.entries →
          SameButMarks rest other → rest = other := by
  have hnames := nodup_names_entriesBelow service path
  constructor
  · intro hnodup rest text other otherText hrest hother hsame
    have hentry := List.inj_on_of_nodup_map hnodup (mem_entriesBelow_iff.mpr hrest)
      (mem_entriesBelow_iff.mpr hother) ((flattenName_eq_iff path rest other).mpr hsame)
    exact (String.append_right_inj path).mp (congrArg Prod.fst hentry)
  · intro hdistinct
    have hkeys : ∀ first ∈ service.entriesBelow path, ∀ second ∈ service.entriesBelow path,
        flattenName path first.1 = flattenName path second.1 → first.1 = second.1 := by
      rw [forall_mem_entriesBelow]
      intro rest text hrest
      rw [forall_mem_entriesBelow]
      intro other otherText hother hsame
      rw [hdistinct rest text other otherText hrest hother
        ((flattenName_eq_iff path rest other).mp hsame)]
    refine hnames.of_map.map_on fun first hfirst second hsecond hsame => ?_
    exact List.inj_on_of_nodup_map hnames hfirst hsecond (hkeys first hfirst second hsecond hsame)

theorem find?_ofList_entriesBelow {key : String} {value : Json} :
    (OrderedMap.ofList ((service.entriesBelow path).map fun entry =>
        (flattenName path entry.1, Json.string entry.2))).find? key = some value ↔
      ∃ entry ∈ service.entriesBelow path, flattenName path entry.1 = key ∧
        value = .string entry.2 ∧ ∀ other ∈ service.entriesBelow path,
          flattenName path other.1 = key → other.1 ≤ entry.1 := by
  have hfound := @find?_reverse_eq_some_iff _ (entriesBelow_sorted service path)
    fun entry => decide (flattenName path entry.1 = key)
  simp only [decide_eq_true_eq] at hfound
  rw [OrderedMap.find?_ofList, ← List.map_reverse, List.find?_map, Option.map_map,
    Option.map_eq_some_iff]
  constructor
  · rintro ⟨entry, hentry, rfl⟩
    obtain ⟨hmem, hkey, hgreatest⟩ := hfound.mp hentry
    exact ⟨entry, hmem, hkey, rfl, hgreatest⟩
  · rintro ⟨entry, hmem, hkey, rfl, hgreatest⟩
    exact ⟨entry, hfound.mpr ⟨hmem, hkey, hgreatest⟩, rfl⟩

theorem collated_entriesBelow (service : Service) (path : String) :
    PropertySource.Collated service.store path
      ((service.entriesBelow path).map fun entry => .ofText entry.1 entry.2)
      (.ofList ((service.entriesBelow path).map fun entry =>
        (flattenName path entry.1, .string entry.2))) where
  shared := fun rest _ other _ _ _ => flattenName_eq_iff path rest other
  kept := by
    intro key value
    rw [find?_ofList_entriesBelow]
    constructor
    · rintro ⟨⟨name, text⟩, hmem, hkey, hvalue, hgreatest⟩
      obtain ⟨rest, rfl⟩ := exists_append_of_mem_entriesBelow hmem
      refine ⟨rest, text, mem_entriesBelow_iff.mp hmem, hkey, hvalue, ?_⟩
      intro other otherText hother hsame
      refine hgreatest _ (mem_entriesBelow_iff.mpr hother) ?_
      rw [← hkey, eq_comm, flattenName_eq_iff]
      exact hsame
    · rintro ⟨rest, text, hmem, hkey, hvalue, hgreatest⟩
      refine ⟨_, mem_entriesBelow_iff.mpr hmem, hkey, hvalue, ?_⟩
      rw [forall_mem_entriesBelow]
      intro other otherText hother hsame
      rw [← hkey, eq_comm, flattenName_eq_iff] at hsame
      exact hgreatest other otherText hother hsame
  greater := by
    intro rest text other otherText _ _ hsame
    rw [String.lt_iff, String.toList_append, String.toList_append, append_lt_append_iff]
    exact lt_iff_of_marks hsame
  noSlash := by
    intro key hkey
    rw [OrderedMap.keys_ofList, List.mem_eraseDups, List.map_map] at hkey
    obtain ⟨entry, _, rfl⟩ := List.mem_map.mp hkey
    simp only [Function.comp_apply, flattenName, String.toList_ofList]
    exact slash_not_mem_dotted _
  size := by
    rw [List.length_map, ← nodup_keys_entriesBelow_iff]
    have hsize := OrderedMap.size_ofList_eq_length ((service.entriesBelow path).map fun entry =>
      (flattenName path entry.1, Json.string entry.2))
    rwa [List.length_map, List.map_map] at hsize
  recovered := by
    intro rest text hmem hdots
    constructor
    · rw [OrderedMap.keys_ofList, List.mem_eraseDups, List.map_map]
      exact List.mem_map.mpr ⟨_, mem_entriesBelow_iff.mpr hmem, rfl⟩
    · refine congrArg (path ++ ·) (String.toList_injective ?_)
      rw [flattenName_append, String.toList_map, String.toList_ofList, map_dotted hdots]

end Service

namespace PropertySource

/-- Parameters are entered by key, and of what a fetch brings from a store the greatest names are kept. -/
theorem collisions_resolved (path : String) :
    (∀ given : List (String × Json), ∃ propertySource,
      ofParameters path (given.map fun entry => { name := .string entry.1, value := entry.2 }) =
          .ok propertySource ∧
        Entered path given propertySource) ∧
    ∀ region source holding (state : ServingState), state.service.script = [] →
      (∃ built, state.service.connect (source.session region) = .ok built) →
        ∃ parameters propertySource,
          (observe (Fetch.Step.perform region (.fetch path source holding)) state).1.outcome =
              .ok (some parameters) ∧
            ofParameters path parameters = .ok propertySource ∧
            Collated state.service.store path parameters propertySource.source := by
  constructor
  · intro given
    exact ⟨_, ofParameters_named path given, entered_ofParameters path given⟩
  · intro region source holding state hscript hbuildable
    obtain ⟨_, houtcome, _⟩ := Fetch.exists_observed path holding state hbuildable
    rw [(Service.readPages_all path hscript).1] at houtcome
    exact ⟨_, _, houtcome, ofParameters_ofText path _, state.service.collated_entriesBelow path⟩

/-- Of two names on different pages that differ in a dot against a slash the one with the slash is kept. -/
theorem collisions_resolved_single_entries :
    let state : ServingState :=
      { service := { store := .ofList [("/a/x/y", "2"), ("/a/x.y", "1")], pageSize := 1 } }
    state.service.script = [] ∧
      (∃ built, state.service.connect (Source.session .ambient none) = .ok built) ∧
      ∃ parameters propertySource,
        (observe (Fetch.Step.perform none (.fetch "/a/" .ambient true)) state).1.outcome =
            .ok (some parameters) ∧
          ofParameters "/a/" parameters = .ok propertySource ∧
          propertySource.source.find? "x.y" = some (.string "2") := by
  intro state
  have hbuildable : ∃ built, state.service.connect (Source.session .ambient none) = .ok built :=
    ⟨_, rfl⟩
  obtain ⟨parameters, propertySource, houtcome, hof, hcollated⟩ :=
    (collisions_resolved "/a/").2 none .ambient true state rfl hbuildable
  refine ⟨rfl, hbuildable, parameters, propertySource, houtcome, hof, ?_⟩
  rw [hcollated.kept]
  refine ⟨"x/y", "2", by decide, by decide, rfl, ?_⟩
  have hstore : ∀ entry ∈ state.service.store.entries, entry.1 ≤ "/a/" ++ "x/y" := by decide
  exact fun other otherText hother _ => hstore _ hother

end PropertySource
end ParameterConfig
