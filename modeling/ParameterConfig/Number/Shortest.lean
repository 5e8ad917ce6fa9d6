import ParameterConfig.Number.Double

/-!
# Shortest decimal text of a double

A double is written with the fewest digits that read back as the same double, and among those with the digits nearest to it. A grid of decimals with one more digit is tried until one of the two neighbours of the value lies in the interval of reals that round to it.
-/

namespace ParameterConfig
namespace Double

/-- A quotient and the interval around it that rounds to the same double, over one denominator. -/
structure Interval where
  value : Nat
  low : Nat
  high : Nat
  den : Nat
  closed : Bool

/-- The gap below a power of two is half as wide as the one above it. -/
def interval (mantissa : Nat) (exponent : Int) : Interval :=
  let below := if mantissa = Nat.pow 2 (mantissaBits - 1) && exponent > leastExponent then 1 else 2
  let quarter := exponent - 2
  let up := Nat.pow 2 quarter.toNat
  let down := Nat.pow 2 (-quarter).toNat
  { value := 4 * mantissa * up
    low := (4 * mantissa - below) * up
    high := (4 * mantissa + 2) * up
    den := down
    closed := mantissa % 2 = 0 }

/-- The interval in units of `10 ^ exponent`. -/
def Interval.inUnits (i : Interval) (exponent : Int) : Interval :=
  let up := Nat.pow 10 (-exponent).toNat
  { i with
    value := i.value * up
    low := i.low * up
    high := i.high * up
    den := i.den * Nat.pow 10 exponent.toNat }

def Interval.holds (i : Interval) (n : Nat) : Bool :=
  if i.closed then i.low ≤ n * i.den && n * i.den ≤ i.high
  else i.low < n * i.den && n * i.den < i.high

/-- The whole number nearest to the value that rounds back to it. -/
def Interval.nearest? (i : Interval) : Option Nat :=
  let floor := i.value / i.den
  let fits := [floor, floor + 1].filter i.holds
  match fits with
  | [a, b] => if 2 * (i.value % i.den) < i.den then some a
    else if i.den < 2 * (i.value % i.den) then some b
    else if a % 2 = 0 then some a else some b
  | fits => fits.head?

/-- The number of digits before the point of a positive value; zero or less for fractions. -/
def Interval.decimalOrder (i : Interval) : Int :=
  let guess : Int := ((i.value.log2 : Int) - i.den.log2) * 30103 / 100000 - 1
  let below (order : Int) : Bool :=
    let scaled := i.inUnits order
    scaled.value < scaled.den
  ([guess, guess + 1, guess + 2, guess + 3].find? below).getD (guess + 4)

/-- Digits and the power of ten of the last one. -/
def shortest (mantissa : Nat) (exponent : Int) : Nat × Int :=
  let i := interval mantissa exponent
  let order := i.decimalOrder
  let onGrid (count : Nat) : Option (Nat × Int) :=
    let unit := order - (count + 1)
    (i.inUnits unit).nearest?.map fun digits => (digits, unit)
  ((List.range 17).findSome? onGrid).getD (0, 0)

/-- How a format writes doubles outside the finite ones. -/
structure SpecialNames where
  infinity : String
  notANumber : String

/-- Digits are written out while the point stands at most sixteen places behind and four places before the first of them. -/
def positionalOrders (order : Int) : Bool :=
  -4 < order && order ≤ 16

def exponentText (exponent : Int) : String :=
  let digits := Nat.toDigits 10 exponent.natAbs
  (if exponent < 0 then "e-" else "e+") ++
    String.ofList (List.replicate (2 - digits.length) '0' ++ digits)

def dropTrailingZeros (digits : List Char) : List Char :=
  (digits.reverse.dropWhile (· = '0')).reverse

/-- The text of a positive finite number. -/
def positiveText (mantissa : Nat) (exponent : Int) : String :=
  let (number, unit) := shortest mantissa exponent
  let written := Nat.toDigits 10 number
  let order : Int := written.length + unit
  let digits := dropTrailingZeros written
  if positionalOrders order then
    if order ≤ 0 then
      String.ofList ('0' :: '.' :: List.replicate (-order).toNat '0' ++ digits)
    else
      let whole := digits.take order.toNat
      let fraction := digits.drop order.toNat
      String.ofList (whole ++ List.replicate (order.toNat - whole.length) '0' ++
        '.' :: (if fraction.isEmpty then ['0'] else fraction))
  else
    let point := if digits.length > 1 then ['.'] else []
    String.ofList (digits.take 1 ++ point ++ digits.drop 1) ++ exponentText (order - 1)

def text (names : SpecialNames) : Double → String
  | .finite negative mantissa exponent =>
    (if negative then "-" else "") ++
      (if mantissa = 0 then "0.0" else positiveText mantissa exponent)
  | .infinite negative => (if negative then "-" else "") ++ names.infinity
  | .notANumber => names.notANumber

end Double
end ParameterConfig
