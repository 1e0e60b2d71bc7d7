import ItemStore.Decimal.Binary

/-!
# ItemStore.Decimal.Shortest

The shortest decimal that reads back as a given floating-point number.

Every magnitude owns the interval of numbers that round to it. The search goes from coarse powers of
ten to fine ones and stops at the first power `10 ^ k` of which some multiple lies in the interval.
A coarser grid means fewer digits, so the multiple found has as few digits as any decimal in the
interval. Of the two multiples next to the magnitude the nearer one counts, and where they are
equally near a number format says which one does.
-/

namespace ItemStore.Decimal

/-- The decimal number `digits · 10 ^ exponent`. -/
structure DecimalNumber where
  /-- The digits, as a number. -/
  digits : Nat
  /-- The power of ten that scales them. -/
  exponent : Int
deriving DecidableEq, Repr

/--
The interval of numbers that round to a magnitude, in quarters of its unit in the last place:
`low`, `value` and `high` count units of `2 ^ exponent`, and the ends belong to it if `closed`.
-/
structure RoundingInterval where
  /-- The lower end. -/
  low : Nat
  /-- The magnitude itself. -/
  value : Nat
  /-- The upper end. -/
  high : Nat
  /-- The power of two that scales the three. -/
  exponent : Int
  /-- Whether the ends round to the magnitude too, as they do when its pattern is even. -/
  closed : Bool
deriving DecidableEq, Repr

/-- The interval of a magnitude. -/
def Magnitude.interval (size : Magnitude) : RoundingInterval where
  low := 4 * size.mantissa - (if size.closerBelow then 1 else 2)
  value := 4 * size.mantissa
  high := 4 * size.mantissa + 2
  exponent := size.exponent - 2
  closed := size.mantissa % 2 == 0

/-- Which of two neighbours on a grid stands for a magnitude halfway between them. -/
inductive Tie
  | even
  | greater
deriving DecidableEq, Repr

/-- Whether the smaller neighbour stands for the magnitude. -/
def Tie.takesBelow (tie : Tie) (below : Nat) : Bool :=
  match tie with
  | .even => below % 2 == 0
  | .greater => false

namespace RoundingInterval

/--
Whether `digits · 10 ^ power` lies in the interval. Both sides are multiplied by the powers of two
and ten with negative exponents, so the comparison is one of natural numbers.
-/
def holds (interval : RoundingInterval) (digits : Nat) (power : Int) : Bool :=
  let point := digits * tenPow power.toNat * twoPow (-interval.exponent).toNat
  let unit := twoPow interval.exponent.toNat * tenPow (-power).toNat
  if interval.closed then interval.low * unit ≤ point && point ≤ interval.high * unit
  else interval.low * unit < point && point < interval.high * unit

/--
The multiple of `10 ^ power` in the interval next to its value: the nearer one of the two neighbours
if both are inside, and at equal distance the one that the tie gives.
-/
def onGrid? (interval : RoundingInterval) (tie : Tie) (power : Int) : Option Nat :=
  let step := tenPow power.toNat * twoPow (-interval.exponent).toNat
  let value := interval.value * twoPow interval.exponent.toNat * tenPow (-power).toNat
  let below := value / step
  let before := 2 * (value % step)
  let belowInside := 0 < below && interval.holds below power
  let aboveInside := interval.holds (below + 1) power
  if belowInside && aboveInside then
    let takesBelow := before < step || (before == step && tie.takesBelow below)
    some (if takesBelow then below else below + 1)
  else if belowInside then some below
  else if aboveInside then some (below + 1)
  else none

/-- Looks on the grids `10 ^ power`, `10 ^ (power - 1)`, …, on at most `grids` of them. -/
def search (interval : RoundingInterval) (tie : Tie) : (grids : Nat) → (power : Int) → DecimalNumber
  | 0, power => ⟨interval.value, power⟩
  | grids + 1, power =>
      match interval.onGrid? tie power with
      | some digits => ⟨digits, power⟩
      | none => search interval tie grids (power - 1)

/--
A power of ten above the interval. The decimal logarithm of two is `30103 / 100000` up to a
ten-millionth, and the last summand covers that error and the part of the interval above its value.
-/
def ceilingPower (interval : RoundingInterval) : Int :=
  ((interval.value.log2 : Int) + interval.exponent + 1) * 30103 / 100000 + 2

end RoundingInterval

/-- The shortest decimal that rounds to a magnitude, and the nearest of those, up to the tie. -/
def Magnitude.shortest (size : Magnitude) (tie : Tie) : DecimalNumber :=
  if size.mantissa = 0 then ⟨0, 0⟩
  else size.interval.search tie 25 size.interval.ceilingPower

end ItemStore.Decimal
