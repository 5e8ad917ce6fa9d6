import ParameterConfig.Json.Reader
import ParameterConfig.Proofs.Json.Text

/-!
# Spellings of tokens

A row of tokens may be spelt in many ways: with space before, between and behind the tokens, and with every character of a text in any of its forms. Whatever the spelling, the same tokens are read.
-/

namespace ParameterConfig
namespace Json

namespace Token

variable {limit : Nat}

/-! ### One token after the other -/

theorem ofChars?_of_next {c : Char} {rest after : List Char} {token : Token}
    (hspace : isSpace c = false) (hnext : next? limit (c :: rest) = some (token, after))
    (hshorter : after.length ≤ rest.length) :
    ofChars? limit (c :: rest) = (ofChars? limit after).map (token :: ·) := by
  rw [ofChars?, if_neg (by rw [hspace]; decide), hnext]
  dsimp only
  rw [if_pos (by rw [List.length_cons]; omega)]

/-! ### Spellings -/

/-- How a token that is not a number may be spelt. -/
inductive Spelt : Token → List Char → Prop
  | openArray : Spelt .openArray ['[']
  | closeArray : Spelt .closeArray [']']
  | openObject : Spelt .openObject ['\x7b']
  | closeObject : Spelt .closeObject ['\x7d']
  | comma : Spelt .comma [',']
  | colon : Spelt .colon [':']
  | text {s : String} {written : List (List Char)}
      (hforms : List.Forall₂ Form s.toList written) :
      Spelt (.text s) ('"' :: written.flatten ++ ['"'])
  | null : Spelt (.scalar .null) "null".toList
  | true : Spelt (.scalar (.bool true)) "true".toList
  | false : Spelt (.scalar (.bool false)) "false".toList

/-- How a row of tokens may be spelt, with any space around each of them. -/
inductive Spelling : List Token → List Char → Prop
  | nil : Spelling [] []
  | space {c : Char} {tokens : List Token} {cs : List Char} (hspace : c ∈ [' ', '\t', '\n', '\r'])
      (hcs : Spelling tokens cs) : Spelling tokens (c :: cs)
  | cons {token : Token} {tokens : List Token} {front cs : List Char} (hspelt : Spelt token front)
      (hcs : Spelling tokens cs) : Spelling (token :: tokens) (front ++ cs)

theorem Spelt.ofChars? {token : Token} {front : List Char} (hspelt : Spelt token front)
    (rest : List Char) :
    ofChars? limit (front ++ rest) = (ofChars? limit rest).map (token :: ·) := by
  cases hspelt with
  | openArray => exact ofChars?_of_next (by decide) rfl (Nat.le_refl _)
  | closeArray => exact ofChars?_of_next (by decide) rfl (Nat.le_refl _)
  | openObject => exact ofChars?_of_next (by decide) rfl (Nat.le_refl _)
  | closeObject => exact ofChars?_of_next (by decide) rfl (Nat.le_refl _)
  | comma => exact ofChars?_of_next (by decide) rfl (Nat.le_refl _)
  | colon => exact ofChars?_of_next (by decide) rfl (Nat.le_refl _)
  | @text s written hforms =>
    have hquote : punctuation? '"' = none := by decide
    simp only [List.cons_append, List.append_assoc, List.nil_append]
    refine ofChars?_of_next (by decide) ?_ ?_
    · simp only [next?, hquote, if_true, textBody?_forms hforms, Option.map_some,
        String.ofList_toList]
    · rw [List.length_append, List.length_cons]
      omega
  | null => exact ofChars?_of_next (by decide) rfl (Nat.le_add_right _ 3)
  | true => exact ofChars?_of_next (by decide) rfl (Nat.le_add_right _ 3)
  | false => exact ofChars?_of_next (by decide) rfl (Nat.le_add_right _ 4)

theorem isSpace_of_mem {c : Char} (hspace : c ∈ [' ', '\t', '\n', '\r']) : isSpace c = true := by
  have hall : [' ', '\t', '\n', '\r'].all isSpace := by decide
  exact List.all_eq_true.mp hall c hspace

/-- The tokens are read from any spelling of theirs. -/
theorem Spelling.ofChars? {tokens : List Token} {cs : List Char} (hspelling : Spelling tokens cs) :
    Token.ofChars? limit cs = some tokens := by
  induction hspelling with
  | nil => rw [Token.ofChars?]
  | space hspace _ ih => rw [Token.ofChars?, if_pos (isSpace_of_mem hspace), ih]
  | cons hspelt _ ih => rw [hspelt.ofChars?, ih, Option.map_some]

end Token

end Json
end ParameterConfig
