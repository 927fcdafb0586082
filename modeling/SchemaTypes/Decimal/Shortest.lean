/-
The shortest decimal text of a binary floating-point number: the fewest digits
from which the number is read back, and of those the nearest to it.

A number m · 2^q is read back from every decimal in an interval around it that
ends halfway to its neighbours; the ends belong to it if m is even. For one
digit, two digits, and so on, only the two decimals next to the number have to
be tried. All of it is exact arithmetic on natural numbers.
-/
namespace SchemaTypes.Decimal

/-- The number `mantissa · 2^exponent`. -/
structure Binary where
  mantissa : Nat
  exponent : Int
deriving DecidableEq, Repr

/-- A decimal `0.d₁d₂d₃… · 10^point`, given by its digits as one number. -/
structure Digits where
  digits : Nat
  point : Int
deriving DecidableEq, Repr

/-- The bit of the sign in the 64-bit format, the highest one. -/
def signBit : Nat := 0x8000000000000000

/-- The leading bit of a full mantissa in the 64-bit format, which has 52 further ones. -/
def leadingBit : Nat := 0x10000000000000

/-- The number of exponents in the 64-bit format. -/
def exponentCount : Nat := 0x800

/-- The magnitude of a finite number in the 64-bit format, from its bits. -/
def Binary.ofBits (bits : Nat) : Binary :=
  let fraction : Nat := bits % leadingBit
  let biased : Nat := bits / leadingBit % exponentCount
  if biased = 0 then ⟨fraction, -1074⟩ else ⟨leadingBit + fraction, (biased : Int) - 1075⟩

/-- The power of an integer exponent as a fraction. -/
def fractionPower (base : Nat) (e : Int) : Nat × Nat :=
  (Nat.pow base e.toNat, Nat.pow base (-e).toNat)

/-- A multiple of the grid `10^step`, compared with the interval of a number: four times the
number and its ends, over a common denominator. -/
structure Scaled where
  value : Nat
  low : Nat
  high : Nat
  /-- One step of the grid, on the same scale. -/
  unit : Nat
  closed : Bool

/-- The interval of a number, scaled to a grid. -/
def scale (b : Binary) (step : Int) : Scaled :=
  let (up, down) := fractionPower 2 b.exponent
  let (tens, tenths) := fractionPower 10 step
  let factor := up * tenths
  let gapBelow := if b.mantissa = leadingBit ∧ -1074 < b.exponent then 1 else 2
  { value := 4 * b.mantissa * factor
    low := (4 * b.mantissa - gapBelow) * factor
    high := (4 * b.mantissa + 2) * factor
    unit := 4 * down * tens
    closed := b.mantissa % 2 == 0 }

/-- Whether a multiple of the grid's step reads back as the number. -/
def Scaled.accepts (s : Scaled) (k : Nat) : Bool :=
  if s.closed then s.low ≤ k * s.unit && k * s.unit ≤ s.high
  else s.low < k * s.unit && k * s.unit < s.high

/-- The grid's point next to the number that reads back, the nearer one if both do and the
even one if both are equally near. -/
def Scaled.nearest? (s : Scaled) : Option Nat :=
  let below := s.value / s.unit
  let above := below + 1
  match s.accepts below, s.accepts above with
  | true, true =>
    let toBelow := s.value - below * s.unit
    let toAbove := above * s.unit - s.value
    if toBelow < toAbove || (toBelow == toAbove && below % 2 == 0) then some below
    else some above
  | true, false => some below
  | false, true => some above
  | false, false => none

/-- The place of the point: the count of digits before it, or minus the zeros after it. -/
def pointOf (b : Binary) : Int :=
  let (up, down) := fractionPower 2 b.exponent
  ((toString (b.mantissa * up * Nat.pow 10 400 / down)).length : Int) - 400

/-- The first of the finer and finer grids with a point that reads back. -/
def search (b : Binary) (point : Int) : Nat → Nat → Digits
  | 0, _ => ⟨b.mantissa, point⟩
  | more + 1, count =>
    match (scale b (point - count)).nearest? with
    | some k =>
      if k = Nat.pow 10 count then ⟨1, point + 1⟩ else ⟨k, point⟩
    | none => search b point more (count + 1)

/-- The shortest digits of a number that is not zero. -/
def shortest (b : Binary) : Digits :=
  search b (pointOf b) 17 1

end SchemaTypes.Decimal
