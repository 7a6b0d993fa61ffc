import LanguageClient.Text.Digits

/-!
Finite numbers in double precision: a sign, a significand below 2^53 and a power of two of at
least 2^-1074. `Double.ofRatio?` rounds a quotient to the nearest of them, a half to the even
neighbour; multiplication, division and the reading of decimals are that one rounding.
-/

namespace LanguageClient.Decimal

/-- A finite number in double precision, `significand * 2 ^ exponent` under its sign. Normal
numbers have a significand of 53 bits; smaller ones have the least exponent, -1074. -/
structure Double where
  negative : Bool
  significand : Nat
  exponent : Int
deriving DecidableEq, Repr, Inhabited

namespace Double

/-- The least significand of 53 bits. -/
def leastNormal : Nat := 4503599627370496

/-- Zero under a sign. -/
def zero (negative : Bool) : Double :=
  ⟨negative, 0, -1074⟩

/-- The same magnitude under a sign. -/
def withSign (x : Double) (negative : Bool) : Double :=
  { x with negative }

/-- The quotient of two numbers as an integer, to the nearest, a half to the even neighbour. -/
def roundQuotient (num den : Nat) : Nat :=
  let quotient := num / den
  let twice := 2 * (num % den)
  if twice < den || (twice == den && quotient % 2 == 0) then quotient else quotient + 1

/-- The quotient `num / den` scaled by a power of two: `num * 2 ^ shift / den`, as a numerator
and a denominator. -/
def scaled (num den : Nat) (shift : Int) : Nat × Nat :=
  (num * Nat.pow 2 shift.toNat, den * Nat.pow 2 (-shift).toNat)

/-- The exponent at which the quotient `num / den` has 53 bits before the point, or -1074 if that
is more. -/
def exponentOf (num den : Nat) : Int :=
  let estimate : Int := (num.log2 : Int) - (den.log2 : Int) - 53
  let (scaledNum, scaledDen) := scaled num den (-estimate)
  let exponent := if scaledNum / scaledDen < 2 * leastNormal then estimate else estimate + 1
  max exponent (-1074)

/-- The nearest double of the quotient `num / den`, a half to the even neighbour. There is none
if it would be infinite. The denominator is not zero. -/
def ofRatio? (negative : Bool) (num den : Nat) : Option Double :=
  if num = 0 then some (zero negative)
  else
    let exponent := exponentOf num den
    let (scaledNum, scaledDen) := scaled num den (-exponent)
    let significand := roundQuotient scaledNum scaledDen
    let (significand, exponent) :=
      if significand = 2 * leastNormal then (leastNormal, exponent + 1) else (significand, exponent)
    if exponent > 971 then none else some ⟨negative, significand, exponent⟩

/-- The nearest double of a natural number below 2^1023. -/
def ofNat (n : Nat) : Double :=
  (ofRatio? false n 1).getD (zero false)

/-- The magnitude as a quotient of natural numbers. -/
def ratio (x : Double) : Nat × Nat :=
  (x.significand * Nat.pow 2 x.exponent.toNat, Nat.pow 2 (-x.exponent).toNat)

/-- The product, rounded; none if it would be infinite. -/
def mul? (x y : Double) : Option Double :=
  let (a, b) := x.ratio
  let (c, d) := y.ratio
  ofRatio? (x.negative != y.negative) (a * c) (b * d)

/-- The quotient, rounded; none if it would be infinite. The divisor is not zero. -/
def div? (x y : Double) : Option Double :=
  let (a, b) := x.ratio
  let (c, d) := y.ratio
  ofRatio? (x.negative != y.negative) (a * d) (b * c)

/-- The double nearest to a power of ten, for exponents up to 308. -/
def powerOfTen (n : Nat) : Double :=
  ofNat (Nat.pow 10 n)

/-- The double nearest to the decimal `digits * 10 ^ power`, none if it would be infinite. -/
def ofDecimal? (negative : Bool) (digits : Nat) (power : Int) : Option Double :=
  if digits = 0 then some (zero negative)
  else
    let size : Int := ((Nat.toDigits 10 digits).length : Int) + power
    if size > 310 then none
    else if size < -330 then some (zero negative)
    else ofRatio? negative (digits * Nat.pow 10 power.toNat)
      (Nat.pow 10 (-power).toNat)

end Double

end LanguageClient.Decimal
