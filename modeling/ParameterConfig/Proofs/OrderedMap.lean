import Mathlib.Data.List.Induction
import Mathlib.Data.List.Nodup
import Mathlib.Data.List.Perm.Subperm
import ParameterConfig.OrderedMap

/-!
# Ordered maps as lists of entries

What is found in an ordered map are its entries, and a new key brings one entry more at the end.
-/

namespace ParameterConfig

/-- What is sorted by names of which none occurs twice stands in strict order. -/
theorem pairwise_lt_mergeSort {α : Type u} {name : α → String} {list : List α}
    (hdistinct : (list.map name).Nodup) :
    (list.mergeSort fun first second => name first ≤ name second).Pairwise
      fun first second => name first < name second := by
  have htrans : ∀ first second third : α, decide (name first ≤ name second) = true →
      decide (name second ≤ name third) = true → decide (name first ≤ name third) = true := by
    intro first second third hfirst hsecond
    rw [decide_eq_true_eq] at hfirst hsecond ⊢
    exact String.le_trans hfirst hsecond
  have htotal : ∀ first second : α,
      (decide (name first ≤ name second) || decide (name second ≤ name first)) = true := by
    intro first second
    rw [Bool.or_eq_true, decide_eq_true_eq, decide_eq_true_eq]
    exact String.le_total (name first) (name second)
  have hnames : (list.mergeSort fun first second => name first ≤ name second).Pairwise
      fun first second => name first ≠ name second := by
    rw [← List.pairwise_map (f := name) (R := (· ≠ ·))]
    exact ((List.mergeSort_perm list _).map name).nodup_iff.mpr hdistinct
  refine ((List.pairwise_mergeSort htrans htotal list).and hnames).imp fun hboth => ?_
  exact Std.lt_of_le_of_ne (of_decide_eq_true hboth.1) hboth.2

namespace OrderedMap

variable {α : Type u} {β : Type v} [DecidableEq α] {map : OrderedMap α β} {key : α} {value : β}

theorem find?_eq_none : map.find? key = none ↔ key ∉ map.keys := by
  simp only [find?, Option.map_eq_none_iff, List.find?_eq_none, decide_eq_true_eq, keys,
    List.mem_map, not_exists, not_and]

theorem mem_entries_of_find? (hfound : map.find? key = some value) : (key, value) ∈ map.entries := by
  obtain ⟨entry, hentry, rfl⟩ := Option.map_eq_some_iff.mp hfound
  have hkey : entry.1 = key := by simpa using List.find?_some hentry
  subst hkey
  exact List.mem_of_find?_eq_some hentry

/-- No other entry with the same key comes before an entry. -/
theorem find?_of_mem_entries (hentry : (key, value) ∈ map.entries) :
    map.find? key = some value := by
  cases hfound : map.find? key with
  | none => exact absurd (List.mem_map_of_mem (f := Prod.fst) hentry) (find?_eq_none.mp hfound)
  | some other =>
    have hsame := List.inj_on_of_nodup_map map.distinct (mem_entries_of_find? hfound) hentry rfl
    rw [(Prod.mk.inj hsame).2]

theorem mem_entries_iff : (key, value) ∈ map.entries ↔ map.find? key = some value :=
  ⟨find?_of_mem_entries, mem_entries_of_find?⟩

theorem mem_entries_insert {entry : α × β} :
    entry ∈ (map.insert key value).entries ↔
      entry = (key, value) ∨ entry.1 ≠ key ∧ entry ∈ map.entries := by
  obtain ⟨other, found⟩ := entry
  rw [mem_entries_iff, mem_entries_iff]
  by_cases hother : other = key
  · subst hother
    simp [find?_insert_self, eq_comm]
  · simp [find?_insert_of_ne map value hother, hother]

theorem mem_entries_erase {entry : α × β} :
    entry ∈ (map.erase key).entries ↔ entry.1 ≠ key ∧ entry ∈ map.entries := by
  rw [erase, List.mem_filter, decide_eq_true_iff, and_comm]

theorem entries_insert_of_new (hnew : map.find? key = none) :
    (map.insert key value).entries = map.entries ++ [(key, value)] := by
  unfold insert
  rw [dif_neg (find?_eq_none.mp hnew)]

theorem keys_insert_of_new (hnew : map.find? key = none) :
    (map.insert key value).keys = map.keys ++ [key] := by
  rw [keys_insert, if_neg (find?_eq_none.mp hnew)]

theorem values_insert_of_new (hnew : map.find? key = none) :
    (map.insert key value).values = map.values ++ [value] := by
  simp only [values, entries_insert_of_new hnew, List.map_append, List.map_cons, List.map_nil]

theorem mem_entries_insert_of_new (hnew : map.find? key = none) {entry : α × β} :
    entry ∈ (map.insert key value).entries ↔ entry ∈ map.entries ∨ entry = (key, value) := by
  rw [entries_insert_of_new hnew, List.mem_append, List.mem_singleton]

theorem mem_values_insert_of_new (hnew : map.find? key = none) {found : β} :
    found ∈ (map.insert key value).values ↔ found ∈ map.values ∨ found = value := by
  rw [values_insert_of_new hnew, List.mem_append, List.mem_singleton]

theorem find?_insert_of_new {other : α} {found : β} (hnew : map.find? key = none)
    (hfound : map.find? other = some found) : (map.insert key value).find? other = some found := by
  have hne : other ≠ key := by
    rintro rfl
    rw [hnew] at hfound
    cases hfound
  rw [find?_insert_of_ne map value hne, hfound]

theorem entries_erase_of_not_mem (hkey : key ∉ map.keys) :
    (map.erase key).entries = map.entries := by
  refine List.filter_eq_self.mpr fun entry hentry => decide_eq_true ?_
  exact fun hsame => hkey (hsame ▸ List.mem_map_of_mem hentry)

theorem entries_foldl_insert {pairs : List (α × β)} (map : OrderedMap α β)
    (hdistinct : (map.keys ++ pairs.map Prod.fst).Nodup) :
    (pairs.foldl (fun map pair => map.insert pair.1 pair.2) map).entries =
      map.entries ++ pairs := by
  induction pairs generalizing map with
  | nil => rw [List.foldl_nil, List.append_nil]
  | cons pair rest ih =>
    have hnew : map.find? pair.1 = none := by
      rw [find?_eq_none]
      intro hkey
      have hparts := (List.nodup_append.mp hdistinct).2.2 pair.1 hkey pair.1 List.mem_cons_self
      exact hparts rfl
    rw [List.foldl_cons, ih, entries_insert_of_new hnew, List.append_assoc, List.singleton_append]
    rw [keys_insert_of_new hnew, List.append_assoc]
    exact hdistinct

theorem entries_ofList {pairs : List (α × β)} (hdistinct : (pairs.map Prod.fst).Nodup) :
    (ofList pairs).entries = pairs :=
  entries_foldl_insert empty hdistinct

theorem ofList_concat (pairs : List (α × β)) (pair : α × β) :
    ofList (pairs ++ [pair]) = (ofList pairs).insert pair.1 pair.2 := by
  simp only [ofList, List.foldl_append, List.foldl_cons, List.foldl_nil]

/-- Of the pairs with a key the last one counts. -/
theorem find?_ofList (pairs : List (α × β)) (key : α) :
    (ofList pairs).find? key =
      (pairs.reverse.find? fun pair => pair.1 = key).map Prod.snd := by
  induction pairs using List.reverseRecOn with
  | nil => rfl
  | append_singleton pairs pair ih =>
    rw [ofList_concat, List.reverse_concat]
    by_cases hkey : pair.1 = key
    · rw [List.find?_cons_of_pos (by simpa using hkey), ← hkey, find?_insert_self]
      rfl
    · rw [List.find?_cons_of_neg (by simpa using hkey), find?_insert_of_ne _ _ (Ne.symm hkey), ih]

theorem entries_ofList_subset (pairs : List (α × β)) : (ofList pairs).entries ⊆ pairs := by
  rintro ⟨key, value⟩ hentry
  rw [mem_entries_iff, find?_ofList] at hentry
  obtain ⟨pair, hfound, rfl⟩ := Option.map_eq_some_iff.mp hentry
  obtain rfl : pair.1 = key := by simpa using List.find?_some hfound
  exact List.mem_reverse.mp (List.mem_of_find?_eq_some hfound)

theorem find?_ofList_entries (map : OrderedMap α β) (key : α) :
    (ofList map.entries).find? key = map.find? key := by
  rw [find?, find?, entries_ofList map.distinct]

/-! ### Keys in order of their first occurrence -/

theorem eraseDups_concat (list : List α) (last : α) :
    (list ++ [last]).eraseDups =
      if last ∈ list then list.eraseDups else list.eraseDups ++ [last] := by
  rw [List.eraseDups_append]
  by_cases hlast : last ∈ list
  · simp [List.removeAll, hlast]
  · simp [List.removeAll, hlast, List.eraseDups_cons]

/-- The keys are those of the pairs, each in the place where it comes first. -/
theorem keys_ofList (pairs : List (α × β)) :
    (ofList pairs).keys = (pairs.map Prod.fst).eraseDups := by
  induction pairs using List.reverseRecOn with
  | nil => rfl
  | append_singleton pairs pair ih =>
    rw [ofList_concat, keys_insert, ih, List.map_append, List.map_singleton, eraseDups_concat]
    simp only [List.mem_eraseDups]

theorem keys_ofList_subperm (pairs : List (α × β)) :
    (ofList pairs).keys.Subperm (pairs.map Prod.fst) := by
  refine List.subperm_of_subset (ofList pairs).keys_nodup fun key hkey => ?_
  rwa [keys_ofList, List.mem_eraseDups] at hkey

theorem size_ofList_le_length (pairs : List (α × β)) : (ofList pairs).size ≤ pairs.length := by
  have hlength := (keys_ofList_subperm pairs).length_le
  rwa [keys, List.length_map, List.length_map] at hlength

/-- As many keys come of the pairs as there are pairs just when no two of them have the same key. -/
theorem size_ofList_eq_length (pairs : List (α × β)) :
    (ofList pairs).size = pairs.length ↔ (pairs.map Prod.fst).Nodup := by
  constructor
  · intro hsize
    have hlength : (pairs.map Prod.fst).length ≤ (ofList pairs).keys.length := by
      rw [List.length_map, ← hsize, keys, List.length_map]
      exact Nat.le_refl _
    have hperm := (keys_ofList_subperm pairs).perm_of_length_le hlength
    exact hperm.nodup_iff.mp (ofList pairs).keys_nodup
  · intro hdistinct
    rw [size, entries_ofList hdistinct]

end OrderedMap
end ParameterConfig
