/-
The shortest decimal that means a given double.

A finite double is `m · 2^q`.  All reals nearer to it than to its neighbours are read
back as the same double, and so are the two in the middle between it and a neighbour if
`m` is even.  The decimal looked for is in this interval, has as few digits as
possible, and is the nearest to the double among those.

A grid of decimals meets the interval iff one of the double's two neighbours on the
grid lies in it, so it is enough to try those on ever finer grids.  Seventeen digits
always suffice.  Everything is computed with naturals.
-/
import DeviceGen.Double

namespace DeviceGen

namespace Double

/-- The sign bit. -/
def isNegative (d : Double) : Bool := 0x8000000000000000 ≤ d.bits.toNat

/-- The eleven bits of the exponent. -/
def exponentField (d : Double) : Nat := d.bits.toNat / 0x10000000000000 % 0x800

/-- The fifty-two bits of the fraction. -/
def fractionField (d : Double) : Nat := d.bits.toNat % 0x10000000000000

/-- What a double is, its sign apart. -/
inductive Magnitude where
  | notANumber
  | infinite
  /-- The number `mantissa · 2^exponent`; `edge` if the next smaller double is only half
  as far away as the next larger one. -/
  | finite (mantissa : Nat) (exponent : Int) (edge : Bool)

/-- What the bits below the sign say. -/
def magnitude (d : Double) : Magnitude :=
  let e := d.exponentField
  let f := d.fractionField
  if e = 2047 then if f = 0 then .infinite else .notANumber
  else if e = 0 then .finite f (-1074) false
  else .finite (f + 0x10000000000000) (e - 1075) (f == 0 && e != 1)

end Double

/-- The number `digits · 10^exponent`. -/
structure Decimal where
  digits : Nat
  exponent : Int
  deriving DecidableEq, Repr

namespace Decimal

/-- Moves trailing zeros of the digits into the exponent, at most `fuel` of them. -/
def stripZeros : (fuel : Nat) → Decimal → Decimal
  | 0, d => d
  | fuel + 1, d =>
    if d.digits ≠ 0 ∧ d.digits % 10 = 0 then
      stripZeros fuel ⟨d.digits / 10, d.exponent + 1⟩
    else d

/-- The decimals that a double may be written as: those between `low · 2^exponent` and
`high · 2^exponent`, with or without the ends, `middle · 2^exponent` being the double. -/
structure Interval where
  low : Nat
  middle : Nat
  high : Nat
  exponent : Int
  closed : Bool

namespace Interval

/-- The interval around `mantissa · 2^exponent`, in quarters of its last place. -/
def around (mantissa : Nat) (exponent : Int) (edge : Bool) : Interval where
  low := 4 * mantissa - if edge then 1 else 2
  middle := 4 * mantissa
  high := 4 * mantissa + 2
  exponent := exponent - 2
  closed := mantissa % 2 = 0

/-- Counted in units of `10^grid`, a number `n · 2^exponent` is `n · up / down`. -/
def up (i : Interval) (grid : Int) : Nat :=
  Nat.pow 2 i.exponent.toNat * Nat.pow 10 (-grid).toNat

/-- The divisor that belongs to `up`. -/
def down (i : Interval) (grid : Int) : Nat :=
  Nat.pow 2 (-i.exponent).toNat * Nat.pow 10 grid.toNat

/-- Whether the interval holds `n · 10^grid`. -/
def contains (i : Interval) (grid : Int) (n : Nat) : Bool :=
  let low := i.low * i.up grid
  let high := i.high * i.up grid
  let here := n * i.down grid
  if i.closed then low ≤ here && here ≤ high else low < here && here < high

/-- The decimal on a grid that the interval holds and that is nearest to its middle; of
two equally near ones the larger. -/
def nearest? (i : Interval) (grid : Int) : Option Decimal :=
  let scaled := i.middle * i.up grid
  let unit := i.down grid
  let below := scaled / unit
  let roundsUp := unit ≤ 2 * (scaled % unit)
  match i.contains grid below, i.contains grid (below + 1) with
  | true, true => some ⟨if roundsUp then below + 1 else below, grid⟩
  | true, false => some ⟨below, grid⟩
  | false, true => some ⟨below + 1, grid⟩
  | false, false => none

/-- The exponent of the first digit of the middle. -/
def leadingExponent (i : Interval) : Int :=
  let scaled := i.middle * i.up (-324) / i.down (-324)
  ((Nat.toDigits 10 scaled).length : Int) - 325

/-- The decimal with the fewest digits, from 1 to 17 of them. -/
def shortest (i : Interval) : Decimal :=
  let first := i.leadingExponent
  let found := (List.range 17).findSome? fun n : Nat => i.nearest? (first - n)
  (found.getD ⟨0, 0⟩).stripZeros 17

end Interval

end Decimal

end DeviceGen
