import ParameterConfig.Failure

/-!
# Values that can be written

A value can be written unless a whole number of more than 4300 digits occurs somewhere in it. Whatever stands within a value that can be written can be written as well.
-/

namespace ParameterConfig
namespace Json

/-- One value stands somewhere within another one, or is that value. -/
inductive Occurs (part : Json) : Json → Prop
  | here : Occurs part part
  | item {items : List Json} {item : Json} (hmem : item ∈ items) (hitem : Occurs part item) :
      Occurs part (.array items)
  | member {members : List (String × Json)} {member : String × Json} (hmem : member ∈ members)
      (hvalue : Occurs part member.2) : Occurs part (.object members)

theorem Occurs.trans {part middle whole : Json} (hinner : Occurs part middle)
    (houter : Occurs middle whole) : Occurs part whole := by
  induction houter with
  | here => exact hinner
  | item hmem _ ih => exact .item hmem ih
  | member hmem _ ih => exact .member hmem ih

/-- A whole number of more than 4300 digits occurs in a value. -/
def TooLong (value : Json) : Prop :=
  ∃ n : Int, 4300 < (Nat.toDigits 10 n.natAbs).length ∧ Occurs (.integer n) value

theorem TooLong.of_occurs {part whole : Json} (hpart : part.TooLong) (hoccurs : Occurs part whole) :
    whole.TooLong := by
  obtain ⟨n, hn, hinner⟩ := hpart
  exact ⟨n, hn, hinner.trans hoccurs⟩

theorem tooLong_integer {n : Int} :
    (Json.integer n).TooLong ↔ 4300 < (Nat.toDigits 10 n.natAbs).length := by
  refine ⟨fun ⟨m, hm, hoccurs⟩ => ?_, fun hn => ⟨n, hn, .here⟩⟩
  cases hoccurs
  exact hm

theorem not_tooLong_string (text : String) : ¬ (Json.string text).TooLong := by
  rintro ⟨_, _, hoccurs⟩
  cases hoccurs

theorem tooLong_array {items : List Json} :
    (Json.array items).TooLong ↔ ∃ item ∈ items, item.TooLong := by
  constructor
  · rintro ⟨n, hn, hoccurs⟩
    cases hoccurs with
    | item hmem hitem => exact ⟨_, hmem, n, hn, hitem⟩
  · rintro ⟨item, hmem, hlong⟩
    exact hlong.of_occurs (.item hmem .here)

theorem tooLong_object {members : List (String × Json)} :
    (Json.object members).TooLong ↔ ∃ member ∈ members, member.2.TooLong := by
  constructor
  · rintro ⟨n, hn, hoccurs⟩
    cases hoccurs with
    | member hmem hvalue => exact ⟨_, hmem, n, hn, hvalue⟩
  · rintro ⟨member, hmem, hlong⟩
    exact hlong.of_occurs (.member hmem .here)

mutual

theorem writable_iff (value : Json) : value.writable = true ↔ ¬ value.TooLong := by
  match value with
  | .integer n => rw [writable, tooLong_integer, decide_eq_true_iff, Nat.not_lt]; rfl
  | .array items => rw [writable, itemsWritable_iff, tooLong_array]; simp
  | .object members => rw [writable, membersWritable_iff, tooLong_object]; simp
  | .null => exact iff_of_true rfl fun ⟨_, _, hoccurs⟩ => nomatch hoccurs
  | .bool _ => exact iff_of_true rfl fun ⟨_, _, hoccurs⟩ => nomatch hoccurs
  | .float _ => exact iff_of_true rfl fun ⟨_, _, hoccurs⟩ => nomatch hoccurs
  | .string text => exact iff_of_true rfl (not_tooLong_string text)

theorem itemsWritable_iff (items : List Json) :
    itemsWritable items = true ↔ ∀ item ∈ items, ¬ item.TooLong := by
  match items with
  | [] => simp [itemsWritable]
  | item :: items =>
    rw [itemsWritable, Bool.and_eq_true, writable_iff item, itemsWritable_iff items,
      List.forall_mem_cons]

theorem membersWritable_iff (members : List (String × Json)) :
    membersWritable members = true ↔ ∀ member ∈ members, ¬ member.2.TooLong := by
  match members with
  | [] => simp [membersWritable]
  | (name, value) :: members =>
    rw [membersWritable, Bool.and_eq_true, writable_iff value, membersWritable_iff members,
      List.forall_mem_cons]

end

end Json

namespace Failure

variable {value : Json}

theorem checkWritable_of_tooLong (hlong : value.TooLong) :
    checkWritable value = .error numberTooLong :=
  if_neg fun hwritable => (Json.writable_iff value).mp hwritable hlong

theorem checkWritable_of_not_tooLong (hshort : ¬ value.TooLong) : checkWritable value = .ok () :=
  if_pos ((Json.writable_iff value).mpr hshort)

end Failure
end ParameterConfig
