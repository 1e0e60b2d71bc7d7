/-!
# ItemStore.Decimal.Binary

Binary floating-point formats: what a bit pattern stands for, and the pattern nearest to a number.

Design points:

* A format is two widths; the finite magnitudes of either format are the numbers `m · 2 ^ e` that
  its fields allow, and consecutive bit patterns stand for consecutive magnitudes. So rounding
  computes a pattern directly, and a carry into the next exponent needs no case of its own.
* Everything is exact arithmetic on `Nat` and `Int`.
-/

namespace ItemStore.Decimal

/-- A power of two. -/
def twoPow (n : Nat) : Nat := Nat.pow 2 n

/-- A power of ten. -/
def tenPow (n : Nat) : Nat := Nat.pow 10 n

/-- The widths of the fields of a floating-point format; one more bit holds the sign. -/
structure BinaryFormat where
  fractionBits : Nat
  exponentBits : Nat
deriving DecidableEq, Repr

namespace BinaryFormat

/-- The format of 32 bits. -/
def single : BinaryFormat := ⟨23, 8⟩

/-- The format of 64 bits. -/
def double : BinaryFormat := ⟨52, 11⟩

/-- The exponent `e` of the smallest magnitudes `m · 2 ^ e`. -/
def leastExponent (format : BinaryFormat) : Int :=
  2 - twoPow (format.exponentBits - 1) - format.fractionBits

/-- The pattern of infinity, without its sign. Larger patterns stand for no number. -/
def infinity (format : BinaryFormat) : Nat :=
  (twoPow format.exponentBits - 1) * twoPow format.fractionBits

/-- The weight of the sign bit. -/
def signBit (format : BinaryFormat) : Nat :=
  twoPow (format.fractionBits + format.exponentBits)

end BinaryFormat

/-- The size of a finite number: `mantissa · 2 ^ exponent`. -/
structure Magnitude where
  /-- The integer part of the representation. -/
  mantissa : Nat
  /-- The power of two that scales it. -/
  exponent : Int
  /-- Whether the next smaller magnitude is only half as far away as the next larger one. -/
  closerBelow : Bool
deriving DecidableEq, Repr

namespace Magnitude

/-- The number as a numerator over `den`. -/
def num (size : Magnitude) : Nat := size.mantissa * twoPow size.exponent.toNat

/-- The denominator of the number: a power of two. -/
def den (size : Magnitude) : Nat := twoPow (-size.exponent).toNat

end Magnitude

/-- What a bit pattern stands for. -/
inductive Floating
  /-- No number. -/
  | nan
  /-- An infinity. -/
  | infinite (negative : Bool)
  /-- A number; zero has a sign too. -/
  | finite (negative : Bool) (size : Magnitude)
deriving DecidableEq, Repr

namespace BinaryFormat

/-- The magnitude of a pattern without its sign, taken as a finite one. -/
def magnitude (format : BinaryFormat) (pattern : Nat) : Magnitude :=
  let fraction := pattern % twoPow format.fractionBits
  let field := pattern / twoPow format.fractionBits
  if field = 0 then ⟨fraction, format.leastExponent, false⟩
  else
    ⟨twoPow format.fractionBits + fraction, format.leastExponent + field - 1,
      fraction = 0 && 1 < field⟩

/-- What a pattern stands for. -/
def reading (format : BinaryFormat) (pattern : Nat) : Floating :=
  let negative := format.signBit ≤ pattern
  let unsigned := pattern % format.signBit
  if unsigned < format.infinity then .finite negative (format.magnitude unsigned)
  else if unsigned = format.infinity then .infinite negative
  else .nan

/-- The quotient of two numbers, rounded to the nearest integer, a half to the even one. -/
def roundDiv (num den : Nat) : Nat :=
  let quotient := num / den
  let twice := 2 * (num % den)
  if twice < den then quotient
  else if den < twice then quotient + 1
  else quotient + quotient % 2

/-- The quotient of `num / den` by `2 ^ exponent`, as a numerator and a denominator. -/
def scaled (num den : Nat) (exponent : Int) : Nat × Nat :=
  (num * twoPow (-exponent).toNat, den * twoPow exponent.toNat)

/--
The pattern, without sign, of the magnitude nearest to `num / den`; of two at the same distance the
one with an even pattern. Magnitudes beyond the finite ones count here as if exponents had no bound.
-/
def rounded (format : BinaryFormat) (num den : Nat) : Nat :=
  if num = 0 then 0
  else
    let least := format.leastExponent
    let guess := max least ((num.log2 : Int) - den.log2 - 1 - format.fractionBits)
    let (n, d) := scaled num den guess
    let exponent := if n / d < twoPow (format.fractionBits + 1) then guess else guess + 1
    let (n, d) := scaled num den exponent
    (exponent - least).toNat * twoPow format.fractionBits + roundDiv n d

/-- The pattern of the nearest magnitude, if that is a finite one. -/
def nearest? (format : BinaryFormat) (num den : Nat) : Option Nat :=
  let pattern := format.rounded num den
  if pattern < format.infinity then some pattern else none

theorem lt_infinity_of_nearest? {format : BinaryFormat} {num den pattern : Nat}
    (h : format.nearest? num den = some pattern) : pattern < format.infinity := by
  simp only [nearest?, Option.ite_none_right_eq_some, Option.some.injEq] at h
  exact h.2 ▸ h.1

end BinaryFormat

end ItemStore.Decimal
