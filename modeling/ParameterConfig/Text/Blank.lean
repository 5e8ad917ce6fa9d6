/-!
# Blank characters

The characters that count as empty space at the ends of a text: those with the Unicode bidirectional types of separators and spaces, which include the information separators U+001C to U+001F and the next-line sign. Around a number the information separators do not count.
-/

namespace ParameterConfig
namespace Text

def blankCodePoints : List Nat :=
  [0x9, 0xA, 0xB, 0xC, 0xD, 0x1C, 0x1D, 0x1E, 0x1F, 0x20, 0x85, 0xA0, 0x1680, 0x2000, 0x2001,
   0x2002, 0x2003, 0x2004, 0x2005, 0x2006, 0x2007, 0x2008, 0x2009, 0x200A, 0x2028, 0x2029, 0x202F,
   0x205F, 0x3000]

def isBlank (c : Char) : Bool :=
  blankCodePoints.contains c.toNat

/-- The characters without the blank ones in front. -/
def trimStart (cs : List Char) : List Char :=
  cs.dropWhile isBlank

/-- The characters without the blank ones behind. -/
def trimEnd (cs : List Char) : List Char :=
  (cs.reverse.dropWhile isBlank).reverse

/-- The characters without the blank ones at both ends. -/
def trim (cs : List Char) : List Char :=
  trimEnd (trimStart cs)

/-- The white space around numbers in text. -/
def isSpace (c : Char) : Bool :=
  [0x9, 0xA, 0xB, 0xC, 0xD, 0x20, 0x85, 0xA0, 0x1680, 0x2000, 0x2001, 0x2002, 0x2003, 0x2004,
   0x2005, 0x2006, 0x2007, 0x2008, 0x2009, 0x200A, 0x2028, 0x2029, 0x202F, 0x205F,
   0x3000].contains c.toNat

def withoutSpace (cs : List Char) : List Char :=
  ((cs.dropWhile isSpace).reverse.dropWhile isSpace).reverse

theorem trimStart_eq_self {cs : List Char} (hhead : ∀ c ∈ cs.head?, isBlank c = false) :
    trimStart cs = cs := by
  cases cs with
  | nil => rfl
  | cons c rest => simp [trimStart, hhead c (by simp)]

theorem trimStart_append {front cs : List Char} (hfront : ∀ c ∈ front, isBlank c) :
    trimStart (front ++ cs) = trimStart cs := by
  simp only [trimStart]
  rw [List.dropWhile_append_of_pos hfront]

end Text
end ParameterConfig
