import ParameterConfig.Number.Double
import ParameterConfig.OrderedMap
import ParameterConfig.Text.Digit

/-!
# Structured values

The values of the JSON format. Whole numbers and fractions are kept apart, as are the members of an object in their order. An object made from members has each name once: the last value of a name counts, in the place of the first.
-/

namespace ParameterConfig

inductive Json where
  | null
  | bool (value : Bool)
  | integer (value : Int)
  | float (value : Double)
  | string (value : String)
  | array (items : List Json)
  | object (members : List (String × Json))
deriving Inhabited, Repr

namespace Json

def ofMembers (members : List (String × Json)) : Json :=
  .object (OrderedMap.ofList members).entries

/-- The value of the member with this name in a list of members. -/
def member? (name : String) (members : List (String × Json)) : Option Json :=
  (members.find? fun entry => entry.1 = name).map Prod.snd

def ofOptional : Option String → Json
  | none => .null
  | some s => .string s

def ofNat (n : Nat) : Json :=
  .integer n

/-- Nothing, zero and whatever is empty do not count as given. -/
def isGiven : Json → Bool
  | .null => false
  | .bool value => value
  | .integer value => value != 0
  | .float (.finite _ mantissa _) => mantissa != 0
  | .float _ => true
  | .string value => !value.isEmpty
  | .array items => !items.isEmpty
  | .object members => !members.isEmpty

/-! ### Values that can be written -/

mutual

/-- No whole number in a value has too many digits to be written. -/
def writable : Json → Bool
  | .integer n => (Nat.toDigits 10 n.natAbs).length ≤ Text.mostDigits
  | .array items => itemsWritable items
  | .object members => membersWritable members
  | _ => true

def itemsWritable : List Json → Bool
  | [] => true
  | item :: items => item.writable && itemsWritable items

def membersWritable : List (String × Json) → Bool
  | [] => true
  | (_, value) :: members => value.writable && membersWritable members

end

/-! ### Sameness of values -/

/-- The number a value stands for; truth values count as one and zero. -/
def number? : Json → Option (Int ⊕ Double)
  | .bool value => some (.inl (if value then 1 else 0))
  | .integer value => some (.inl value)
  | .float value =>
    match value.integer? with
    | some n => some (.inl n)
    | none => some (.inr value)
  | _ => none

def sameNumber : Int ⊕ Double → Int ⊕ Double → Bool
  | .inl a, .inl b => a == b
  | .inr a, .inr b => a.sameNumber b
  | _, _ => false

mutual

/-- Equality of what is meant: numbers by their size, objects whatever the order of their members. -/
def same : Json → Json → Bool
  | .null, .null => true
  | .string a, .string b => a == b
  | .array a, .array b => sameItems a b
  | .object a, .object b => a.length == b.length && sameMembers a b
  | a, b =>
    match a.number?, b.number? with
    | some x, some y => sameNumber x y
    | _, _ => false

def sameItems : List Json → List Json → Bool
  | [], [] => true
  | a :: as, b :: bs => same a b && sameItems as bs
  | _, _ => false

def sameMembers : List (String × Json) → List (String × Json) → Bool
  | [], _ => true
  | (name, value) :: rest, others =>
    (match member? name others with
      | some other => same value other
      | none => false) && sameMembers rest others

end

end Json
end ParameterConfig
