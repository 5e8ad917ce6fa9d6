/-!
# Ordered maps

A map that remembers the order in which its keys first came in. Writing a key that is present changes its value and leaves its place; a new key goes to the end. No key occurs twice, which the type records.
-/

namespace ParameterConfig

structure OrderedMap (α : Type u) (β : Type v) where
  entries : List (α × β)
  distinct : (entries.map Prod.fst).Nodup := by simp

namespace OrderedMap

variable {α : Type u} {β : Type v}

def empty : OrderedMap α β :=
  { entries := [] }

instance : EmptyCollection (OrderedMap α β) := ⟨empty⟩

instance : Inhabited (OrderedMap α β) := ⟨empty⟩

def keys (map : OrderedMap α β) : List α :=
  map.entries.map Prod.fst

def values (map : OrderedMap α β) : List β :=
  map.entries.map Prod.snd

def size (map : OrderedMap α β) : Nat :=
  map.entries.length

def isEmpty (map : OrderedMap α β) : Bool :=
  map.entries.isEmpty

/-- The same keys in the same order with other values. -/
def mapValues {γ : Type w} (f : β → γ) (map : OrderedMap α β) : OrderedMap α γ where
  entries := map.entries.map fun entry => (entry.1, f entry.2)
  distinct := by
    have hkeys : (map.entries.map fun entry => (entry.1, f entry.2)).map Prod.fst =
        map.entries.map Prod.fst := by simp
    exact hkeys ▸ map.distinct

variable [DecidableEq α]

def find? (map : OrderedMap α β) (key : α) : Option β :=
  (map.entries.find? fun entry => entry.1 = key).map Prod.snd

def contains (map : OrderedMap α β) (key : α) : Bool :=
  decide (key ∈ map.keys)

/-- The entries with one value exchanged; all keys stay where they are. -/
def replaced (entries : List (α × β)) (key : α) (value : β) : List (α × β) :=
  entries.map fun entry => (entry.1, if entry.1 = key then value else entry.2)

omit [DecidableEq α] in
theorem keys_nodup (map : OrderedMap α β) : map.keys.Nodup :=
  map.distinct

theorem keys_replaced (entries : List (α × β)) (key : α) (value : β) :
    (replaced entries key value).map Prod.fst = entries.map Prod.fst := by
  simp [replaced]

def insert (map : OrderedMap α β) (key : α) (value : β) : OrderedMap α β :=
  if hkey : key ∈ map.keys then
    { entries := replaced map.entries key value
      distinct := by rw [keys_replaced]; exact map.distinct }
  else
    { entries := map.entries ++ [(key, value)]
      distinct := by
        have hnew : ∀ other ∈ map.entries.map Prod.fst, other ≠ key := by
          intro other hother heq
          exact hkey (heq ▸ hother)
        simpa [List.nodup_append] using ⟨map.distinct, by simpa using hnew⟩ }

def erase (map : OrderedMap α β) (key : α) : OrderedMap α β where
  entries := map.entries.filter fun entry => entry.1 ≠ key
  distinct := map.distinct.sublist (List.filter_sublist.map _)

/-- Enters the pairs one after the other, so the last value of a key counts and its first place. -/
def ofList (pairs : List (α × β)) : OrderedMap α β :=
  pairs.foldl (fun map pair => map.insert pair.1 pair.2) empty

theorem keys_insert (map : OrderedMap α β) (key : α) (value : β) :
    (map.insert key value).keys = if key ∈ map.keys then map.keys else map.keys ++ [key] := by
  unfold insert
  split
  · exact keys_replaced map.entries key value
  · simp [keys]

theorem find?_insert_self (map : OrderedMap α β) (key : α) (value : β) :
    (map.insert key value).find? key = some value := by
  unfold insert
  split
  · rename_i hkey
    obtain ⟨entry, hentry, rfl⟩ := List.mem_map.mp hkey
    simp only [find?, replaced, List.find?_map, Option.map_map]
    have hsome : (map.entries.find?
        ((fun other : α × β => decide (other.1 = entry.1)) ∘
          fun other => (other.1, if other.1 = entry.1 then value else other.2))).isSome := by
      rw [List.find?_isSome]
      exact ⟨entry, hentry, by simp⟩
    obtain ⟨found, hfound⟩ := Option.isSome_iff_exists.mp hsome
    have hsame := List.find?_some hfound
    rw [hfound]
    simp only [Function.comp, decide_eq_true_eq] at hsame
    simp [hsame]
  · rename_i hkey
    have hnone : map.entries.find? (fun entry => decide (entry.1 = key)) = none := by
      rw [List.find?_eq_none]
      intro entry hentry
      simp only [decide_eq_true_eq]
      intro heq
      exact hkey (List.mem_map.mpr ⟨entry, hentry, heq⟩)
    simp [find?, List.find?_append, hnone]

theorem find?_insert_of_ne (map : OrderedMap α β) {key other : α} (value : β) (hne : other ≠ key) :
    (map.insert key value).find? other = map.find? other := by
  unfold insert
  split
  · simp only [find?, replaced, List.find?_map, Option.map_map]
    have hpred : ((fun entry : α × β => decide (entry.1 = other)) ∘
        fun entry : α × β => (entry.1, if entry.1 = key then value else entry.2)) =
        fun entry : α × β => decide (entry.1 = other) := by
      funext entry
      simp
    rw [hpred]
    cases hfound : map.entries.find? (fun entry => decide (entry.1 = other)) with
    | none => rfl
    | some entry =>
      have hsame := List.find?_some hfound
      simp only [decide_eq_true_eq] at hsame
      simp [hsame, hne]
  · simp [find?, List.find?_append, Ne.symm hne]

end OrderedMap
end ParameterConfig
