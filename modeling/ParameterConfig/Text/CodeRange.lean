/-!
# Ranges of code points

A property of characters is given as a list of inclusive ranges of code points.
-/

namespace ParameterConfig

/-- All code points from `first` to `last`, both included. -/
structure CodeRange where
  first : Nat
  last : Nat

namespace CodeRange

def holds (range : CodeRange) (c : Char) : Bool :=
  range.first ≤ c.toNat && c.toNat ≤ range.last

def anyHolds (ranges : List CodeRange) (c : Char) : Bool :=
  ranges.any (·.holds c)

end CodeRange
end ParameterConfig
