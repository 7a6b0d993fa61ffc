import LanguageClient.Decimal.Double

/-!
The shortest decimal text of a double: the fewest digits that read back to it, of these the ones
nearest to it, laid out positionally for moderate sizes and with an exponent otherwise.
-/

namespace LanguageClient.Decimal

/-- A decimal, `digits * 10 ^ power`. -/
structure Scientific where
  digits : Nat
  power : Int
deriving DecidableEq, Repr

/-- The order of `left * 10 ^ i` and `right * 2 ^ j`. -/
def compareScaled (left : Nat) (i : Int) (right : Nat) (j : Int) : Ordering :=
  compare (left * Nat.pow 10 i.toNat * Nat.pow 2 (-j).toNat)
    (right * Nat.pow 2 j.toNat * Nat.pow 10 (-i).toNat)

namespace Double

/-- The gap to the next smaller number is half the gap to the next larger one. -/
def narrowBelow (x : Double) : Bool :=
  x.significand == leastNormal && x.exponent > -1074

/-- The decimal lies among the reals that round to the magnitude of `x`: not farther than halfway
to either neighbour, the halfway points included when the significand is even. -/
def readsBack (x : Double) (d : Scientific) : Bool :=
  let low := if x.narrowBelow then 4 * x.significand - 1 else 4 * x.significand - 2
  let high := 4 * x.significand + 2
  let closed := x.significand % 2 == 0
  let atLow := compareScaled d.digits d.power low (x.exponent - 2)
  let atHigh := compareScaled d.digits d.power high (x.exponent - 2)
  (atLow == .gt || (closed && atLow == .eq)) && (atHigh == .lt || (closed && atHigh == .eq))

/-- The least `k` such that the magnitude of `x`, which is not zero, is below `10 ^ k`. -/
def scale (x : Double) : Int :=
  let bits : Int := (x.significand.log2 : Int) + 1 + x.exponent
  -- `bits * log10 2`, from below: one or two steps remain
  let guess := (bits - 1) * 30103 / 100000
  let above (k : Int) : Bool := compareScaled 1 k x.significand x.exponent == .gt
  if above guess then guess else if above (guess + 1) then guess + 1 else guess + 2

/-- The decimals next to the magnitude of `x` on the grid of a power of ten, below and above. -/
def neighbours (x : Double) (power : Int) : Scientific × Scientific :=
  let (num, den) := x.ratio
  let below := num * Nat.pow 10 (-power).toNat / (den * Nat.pow 10 power.toNat)
  (⟨below, power⟩, ⟨below + 1, power⟩)

/-- The decimal on the grid of a power of ten that reads back to `x`; of two the nearer one, and
of two equally near ones the even one. -/
def onGrid? (x : Double) (power : Int) : Option Scientific :=
  let (below, above) := x.neighbours power
  match x.readsBack below, x.readsBack above with
  | true, false => some below
  | false, true => some above
  | false, false => none
  | true, true =>
      match compareScaled (2 * below.digits + 1) power (2 * x.significand) x.exponent with
      | .gt => some below
      | .lt => some above
      | .eq => some (if below.digits % 2 = 0 then below else above)

/-- The digits without the zeros at their end, which go into the power of ten. The fuel bounds
the number of zeros. -/
def stripZeros : Nat → Scientific → Scientific
  | 0, d => d
  | fuel + 1, d =>
      if d.digits ≠ 0 ∧ d.digits % 10 = 0 then stripZeros fuel ⟨d.digits / 10, d.power + 1⟩ else d

/-- The shortest decimal that reads back to the magnitude of `x`. Seventeen digits always
suffice. -/
def shortest (x : Double) : Scientific :=
  if x.significand = 0 then ⟨0, 0⟩
  else
    let scale := x.scale
    let found := (List.range 17).findSome? fun n => x.onGrid? (scale - (n + 1 : Nat))
    stripZeros 20 (found.getD (x.neighbours (scale - 17)).1)

end Double

/-- How a decimal is laid out. -/
structure Layout where
  /-- The least exponent of the leading digit that is written positionally. -/
  leastPositional : Int
  /-- The greatest exponent of the leading digit that is written positionally. -/
  greatestPositional : Int
  /-- Whether an exponent that is not negative has a plus sign. -/
  plus : Bool

/-- A whole number with a sign in front if it is negative. -/
def signed (n : Int) : List Char :=
  if n < 0 then '-' :: Text.digits n.natAbs else Text.digits n.natAbs

/-- The text of a decimal that is not zero: a point is always followed by a digit, and an
exponent follows the letter `e`. -/
def Layout.render (layout : Layout) (d : Scientific) : List Char :=
  let digits := Text.digits d.digits
  let count : Int := digits.length
  let leading := d.power + count - 1
  if layout.leastPositional ≤ leading && leading ≤ layout.greatestPositional then
    if d.power ≥ 0 then
      digits ++ List.replicate d.power.toNat '0' ++ ['.', '0']
    else if leading ≥ 0 then
      digits.take (leading + 1).toNat ++ '.' :: digits.drop (leading + 1).toNat
    else
      '0' :: '.' :: List.replicate (-leading - 1).toNat '0' ++ digits
  else
    match digits with
    | [] => []
    | first :: rest =>
        let exponent := if layout.plus && 0 ≤ leading then '+' :: signed leading else signed leading
        first :: (if rest.isEmpty then [] else '.' :: rest) ++ 'e' :: exponent

/-- The text of a double under a layout. Zero keeps its sign. -/
def Layout.text (layout : Layout) (x : Double) : List Char :=
  let magnitude :=
    if x.significand = 0 then ['0', '.', '0'] else layout.render x.shortest
  if x.negative then '-' :: magnitude else magnitude

end LanguageClient.Decimal
