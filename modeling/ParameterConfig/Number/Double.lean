/-!
# Double precision numbers

Numbers with 53 binary digits, kept exactly as a sign, a mantissa and a power of two, so that reading and writing them is arithmetic on natural numbers. A decimal fraction is rounded to the nearest such number, a tie to the even mantissa; beyond the largest one lies infinity.
-/

namespace ParameterConfig

inductive Double where
  | finite (negative : Bool) (mantissa : Nat) (exponent : Int)
  | infinite (negative : Bool)
  | notANumber
deriving DecidableEq, Repr

namespace Double

def mantissaBits : Nat := 53

def leastExponent : Int := -1074

def greatestExponent : Int := 971

def zero (negative : Bool) : Double :=
  .finite negative 0 leastExponent

/-- The nearest natural number to a quotient; a tie goes to the even one. -/
def roundQuotient (num den : Nat) : Nat :=
  let quotient := num / den
  let twice := 2 * (num % den)
  if twice < den then quotient
  else if den < twice then quotient + 1
  else quotient + quotient % 2

/-- The quotient divided by a power of two, as numerator and denominator. -/
def scaleDown (num den : Nat) (exponent : Int) : Nat × Nat :=
  if 0 ≤ exponent then (num, den * Nat.pow 2 exponent.toNat)
  else (num * Nat.pow 2 (-exponent).toNat, den)

/-- The exponent of the greatest power of two not above a positive quotient. -/
def binaryOrder (num den : Nat) : Int :=
  let guess : Int := (num.log2 : Int) - den.log2
  let scaled := scaleDown num den guess
  if scaled.1 < scaled.2 then guess - 1 else guess

/-- The double nearest to a quotient of natural numbers. -/
def ofQuotient (negative : Bool) (num den : Nat) : Double :=
  if num = 0 then zero negative
  else
    let exponent := max leastExponent (binaryOrder num den - (mantissaBits - 1))
    let scaled := scaleDown num den exponent
    let rounded := roundQuotient scaled.1 scaled.2
    let (mantissa, exponent) :=
      if rounded = Nat.pow 2 mantissaBits then (Nat.pow 2 (mantissaBits - 1), exponent + 1)
      else (rounded, exponent)
    if exponent > greatestExponent then .infinite negative
    else .finite negative mantissa exponent

/-- The double nearest to `digits · 10 ^ exponent`. Numbers far outside the range are settled by their order of magnitude alone. -/
def ofDecimal (negative : Bool) (digits : Nat) (exponent : Int) : Double :=
  if digits = 0 then zero negative
  else
    let order : Int := (Nat.toDigits 10 digits).length + exponent
    if order > 400 then .infinite negative
    else if order < -400 then zero negative
    else if 0 ≤ exponent then ofQuotient negative (digits * Nat.pow 10 exponent.toNat) 1
    else ofQuotient negative digits (Nat.pow 10 (-exponent).toNat)

/-- The whole number that equals this one, if there is one. -/
def integer? : Double → Option Int
  | .finite negative mantissa exponent =>
    let signed (n : Nat) : Int := if negative then -(n : Int) else n
    if 0 ≤ exponent then some (signed (mantissa * Nat.pow 2 exponent.toNat))
    else
      let den := Nat.pow 2 (-exponent).toNat
      if mantissa % den = 0 then some (signed (mantissa / den)) else none
  | _ => none

/-- The number without its fraction; zero for a number that is not finite. -/
def truncated : Double → Int
  | .finite negative mantissa exponent =>
    let size := mantissa * Nat.pow 2 exponent.toNat / Nat.pow 2 (-exponent).toNat
    if negative then -(size : Int) else size
  | _ => 0

/-- Equality of the numbers meant: the two zeros are equal and an undefined number equals nothing. -/
def sameNumber : Double → Double → Bool
  | .finite sign₁ mantissa₁ exponent₁, .finite sign₂ mantissa₂ exponent₂ =>
    mantissa₁ == mantissa₂ && (mantissa₁ == 0 || (sign₁ == sign₂ && exponent₁ == exponent₂))
  | .infinite sign₁, .infinite sign₂ => sign₁ == sign₂
  | _, _ => false

end Double
end ParameterConfig
