import ParameterConfig.Proofs.Json.Spelling

/-!
# Values assembled from their tokens

The tokens of a value are put together to the value again, except that in each of its objects the members of one name are made one. This needs as much depth as containers stand within each other. So a value is read from any spelling of its tokens.
-/

namespace ParameterConfig
namespace Json

/-! ### Tokens of a value -/

mutual

def tokens : Json → List Token
  | .string s => [.text s]
  | .array [] => [.openArray, .closeArray]
  | .array (item :: items) => .openArray :: (item.tokens ++ restItemTokens items)
  | .object [] => [.openObject, .closeObject]
  | .object ((name, value) :: members) =>
    .openObject :: .text name :: .colon :: (value.tokens ++ restMemberTokens members)
  | value => [.scalar value]

def restItemTokens : List Json → List Token
  | [] => [.closeArray]
  | item :: items => .comma :: (item.tokens ++ restItemTokens items)

def restMemberTokens : List (String × Json) → List Token
  | [] => [.closeObject]
  | (name, value) :: members =>
    .comma :: .text name :: .colon :: (value.tokens ++ restMemberTokens members)

end

/-! ### Depth -/

mutual

def nesting : Json → Nat
  | .array items => itemsNesting items + 1
  | .object members => membersNesting members + 1
  | _ => 0

def itemsNesting : List Json → Nat
  | [] => 0
  | item :: items => max item.nesting (itemsNesting items)

def membersNesting : List (String × Json) → Nat
  | [] => 0
  | (_, value) :: members => max value.nesting (membersNesting members)

end

theorem membersNesting_le {members : List (String × Json)} {bound : Nat}
    (hbound : ∀ member ∈ members, member.2.nesting ≤ bound) : membersNesting members ≤ bound := by
  induction members with
  | nil => exact Nat.zero_le bound
  | cons member rest ih =>
    obtain ⟨hmember, hrest⟩ := List.forall_mem_cons.mp hbound
    exact Nat.max_le.mpr ⟨hmember, ih hrest⟩

/-! ### Members made one -/

mutual

/-- The value with the members of one name made one in each of its objects. -/
def merged : Json → Json
  | .array items => .array (mergedItems items)
  | .object members => .ofMembers (mergedMembers members)
  | value => value

def mergedItems : List Json → List Json
  | [] => []
  | item :: items => item.merged :: mergedItems items

def mergedMembers : List (String × Json) → List (String × Json)
  | [] => []
  | (name, value) :: members => (name, value.merged) :: mergedMembers members

end

/-! ### Assembling -/

namespace Assembly

variable {depth : Nat}

theorem run?_firstItem {stack : List Frame} (item : Json) (rest : List Token)
    (hdepth : stack.length < depth) :
    run? depth ⟨stack, .firstItem⟩ (item.tokens ++ rest) =
      run? depth ⟨.array [] :: stack, .value⟩ (item.tokens ++ rest) := by
  cases item with
  | array items => cases items <;> simp [tokens, run?, step?, hdepth]
  | object members => cases members <;> simp [tokens, run?, step?, hdepth]
  | _ => simp [tokens, run?, step?, hdepth]

-- A part of a container is read with one more frame on the stack and nests one level less, so that the sum of both stays within the depth.
mutual

theorem run?_tokens {stack : List Frame} (value : Json) (rest : List Token)
    (hdepth : stack.length + value.nesting ≤ depth) :
    run? depth ⟨stack, .value⟩ (value.tokens ++ rest) =
      run? depth ⟨stack, .complete value.merged⟩ rest := by
  match value with
  | .null | .bool _ | .integer _ | .float _ | .string _ => rfl
  | .array [] => rfl
  | .object [] => rfl
  | .array (item :: items) =>
    simp only [nesting, itemsNesting] at hdepth
    have hitem : (Frame.array [] :: stack).length + item.nesting ≤ depth := by
      rw [List.length_cons]
      omega
    calc run? depth ⟨stack, .value⟩ ((Json.array (item :: items)).tokens ++ rest)
        = run? depth ⟨stack, .firstItem⟩ (item.tokens ++ (restItemTokens items ++ rest)) := by
          rw [tokens, List.cons_append, List.append_assoc]
          rfl
      _ = run? depth ⟨.array [] :: stack, .value⟩ (item.tokens ++ (restItemTokens items ++ rest)) :=
          run?_firstItem item _ (by omega)
      _ = run? depth ⟨.array [] :: stack, .complete item.merged⟩ (restItemTokens items ++ rest) :=
          run?_tokens item _ hitem
      _ = run? depth ⟨stack, .complete (.array (item.merged :: mergedItems items))⟩ rest :=
          run?_restItemTokens [] item.merged items rest (by omega)
  | .object ((name, value) :: members) =>
    simp only [nesting, membersNesting] at hdepth
    have hvalue : (Frame.object [] name :: stack).length + value.nesting ≤ depth := by
      rw [List.length_cons]
      omega
    have hroom : stack.length < depth := by omega
    calc run? depth ⟨stack, .value⟩ ((Json.object ((name, value) :: members)).tokens ++ rest)
        = run? depth ⟨.object [] name :: stack, .value⟩
            (value.tokens ++ (restMemberTokens members ++ rest)) := by
          simp only [tokens, List.cons_append, List.append_assoc, run?, step?, begin?, hroom,
            if_true, Option.bind_some]
      _ = run? depth ⟨.object [] name :: stack, .complete value.merged⟩
            (restMemberTokens members ++ rest) := run?_tokens value _ hvalue
      _ = run? depth ⟨stack, .complete (.ofMembers ((name, value.merged) :: mergedMembers members))⟩
            rest := run?_restMemberTokens [] name value.merged members rest (by omega)

theorem run?_restItemTokens {stack : List Frame} (read : List Json) (value : Json)
    (items : List Json) (rest : List Token)
    (hdepth : stack.length + 1 + itemsNesting items ≤ depth) :
    run? depth ⟨.array read :: stack, .complete value⟩ (restItemTokens items ++ rest) =
      run? depth ⟨stack, .complete (.array ((value :: read).reverse ++ mergedItems items))⟩
        rest := by
  match items with
  | [] =>
    rw [mergedItems, List.append_nil]
    rfl
  | item :: items =>
    simp only [itemsNesting] at hdepth
    have hitem : (Frame.array (value :: read) :: stack).length + item.nesting ≤ depth := by
      rw [List.length_cons]
      omega
    have hroom : stack.length + 1 + itemsNesting items ≤ depth := by omega
    have hrest := run?_restItemTokens (value :: read) item.merged items rest hroom
    rw [List.reverse_cons, List.append_assoc] at hrest
    calc run? depth ⟨.array read :: stack, .complete value⟩ (restItemTokens (item :: items) ++ rest)
        = run? depth ⟨.array (value :: read) :: stack, .value⟩
            (item.tokens ++ (restItemTokens items ++ rest)) := by
          rw [restItemTokens, List.cons_append, List.append_assoc]
          rfl
      _ = run? depth ⟨.array (value :: read) :: stack, .complete item.merged⟩
            (restItemTokens items ++ rest) := run?_tokens item _ hitem
      _ = run? depth ⟨stack, .complete (.array ((value :: read).reverse ++
            mergedItems (item :: items)))⟩ rest := hrest

theorem run?_restMemberTokens {stack : List Frame} (read : List (String × Json)) (name : String)
    (value : Json) (members : List (String × Json)) (rest : List Token)
    (hdepth : stack.length + 1 + membersNesting members ≤ depth) :
    run? depth ⟨.object read name :: stack, .complete value⟩ (restMemberTokens members ++ rest) =
      run? depth ⟨stack, .complete
        (.ofMembers (((name, value) :: read).reverse ++ mergedMembers members))⟩ rest := by
  match members with
  | [] =>
    rw [mergedMembers, List.append_nil]
    rfl
  | (next, inner) :: members =>
    simp only [membersNesting] at hdepth
    have hinner : (Frame.object ((name, value) :: read) next :: stack).length + inner.nesting ≤
        depth := by
      rw [List.length_cons]
      omega
    have hroom : stack.length + 1 + membersNesting members ≤ depth := by omega
    have hrest :=
      run?_restMemberTokens ((name, value) :: read) next inner.merged members rest hroom
    rw [List.reverse_cons, List.append_assoc] at hrest
    calc run? depth ⟨.object read name :: stack, .complete value⟩
            (restMemberTokens ((next, inner) :: members) ++ rest)
        = run? depth ⟨.object ((name, value) :: read) next :: stack, .value⟩
            (inner.tokens ++ (restMemberTokens members ++ rest)) := by
          rw [restMemberTokens, List.cons_append, List.cons_append, List.cons_append,
            List.append_assoc]
          rfl
      _ = run? depth ⟨.object ((name, value) :: read) next :: stack, .complete inner.merged⟩
            (restMemberTokens members ++ rest) := run?_tokens inner _ hinner
      _ = run? depth ⟨stack, .complete (.ofMembers (((name, value) :: read).reverse ++
            mergedMembers ((next, inner) :: members)))⟩ rest := hrest

end

end Assembly

/-- A value is read from any spelling of its tokens, when it does not nest too deep. -/
theorem ofChars?_of_spelling {limits : Limits} {value : Json} {cs : List Char}
    (hspelling : Token.Spelling value.tokens cs) (hdepth : value.nesting ≤ limits.depth) :
    ofChars? limits cs = some value.merged := by
  have hrun : Assembly.run? limits.depth ⟨[], .value⟩ (value.tokens ++ []) =
      some ⟨[], .complete value.merged⟩ := Assembly.run?_tokens value [] (by simpa using hdepth)
  rw [List.append_nil] at hrun
  simp only [ofChars?, hspelling.ofChars?, Option.bind_eq_bind, Option.bind_some, hrun]
  rfl

end Json
end ParameterConfig
