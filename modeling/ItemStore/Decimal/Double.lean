import ItemStore.Decimal.Layout

/-!
# ItemStore.Decimal.Double

Finite floating-point numbers of 64 bits, the numbers that JSON texts and capacity figures hold.

Design points:

* A decimal is not read as the number nearest to it: its significand, the power of ten and their
  product or quotient are rounded one after the other, as in arithmetic with these numbers.
* The powers of ten up to `10 ^ 308` are numbers of the format. A decimal with a higher one is
  infinite or zero, and one with a lower one is divided in several steps.
-/

namespace ItemStore.Decimal

/-- A finite floating-point number of 64 bits, by its pattern without the sign. -/
structure Double where
  /-- Whether the sign bit is set; zero has a sign too. -/
  negative : Bool
  /-- The pattern of the magnitude. -/
  pattern : Nat
  /-- The pattern is that of a finite number. -/
  finite : pattern < BinaryFormat.double.infinity
deriving DecidableEq

namespace Double

/-- Zero, without a sign. -/
def zero : Double := ⟨false, 0, by decide⟩

instance : Inhabited Double := ⟨zero⟩

/-- The number nearest to `num / den`, unless that is beyond the finite ones. -/
def nearest? (negative : Bool) (num den : Nat) : Option Double :=
  match h : BinaryFormat.double.nearest? num den with
  | none => none
  | some pattern =>
      some ⟨negative, pattern, BinaryFormat.lt_infinity_of_nearest? h⟩

/-- The number nearest to an integer, unless that is beyond the finite ones. -/
def ofInt? (n : Int) : Option Double := nearest? (n < 0) n.natAbs 1

/-- The size of the number. -/
def size (x : Double) : Magnitude := BinaryFormat.double.magnitude x.pattern

/-- The product with the number nearest to a power of ten, unless that is beyond the finite ones. -/
def timesTenPow? (x : Double) (power : Nat) : Option Double := do
  let scale ← nearest? false (tenPow power) 1
  nearest? x.negative (x.size.num * scale.size.num) (x.size.den * scale.size.den)

/-- The quotient by the number nearest to a power of ten. -/
def overTenPow? (x : Double) (power : Nat) : Option Double := do
  let scale ← nearest? false (tenPow power) 1
  nearest? x.negative (x.size.num * scale.size.den) (x.size.den * scale.size.num)

/-- The highest power of ten that is a number of the format. -/
def highestPower : Nat := 308

/-- The quotient by a power of ten that may be too high for the format, until nothing is left. -/
def reduced? (x : Double) (power : Nat) : Option Double :=
  if power ≤ highestPower then x.overTenPow? power
  else if x.pattern = 0 then some x
  else (x.overTenPow? highestPower).bind (·.reduced? (power - highestPower))
termination_by power
decreasing_by
  simp only [highestPower] at *
  omega

/-- The product with a power of ten, or the quotient, unless that is beyond the finite ones. -/
def scaled? (x : Double) (exponent : Int) : Option Double :=
  if exponent < 0 then x.reduced? exponent.natAbs
  else if exponent.toNat ≤ highestPower then x.timesTenPow? exponent.toNat
  else if x.pattern = 0 then some x
  else none

/-- The number that is computed for `significand · 10 ^ exponent`, unless that is an infinity. -/
def ofDecimal? (negative : Bool) (significand : Nat) (exponent : Int) : Option Double :=
  (nearest? negative significand 1).bind (·.scaled? exponent)

/-- What the number is, sign and magnitude. -/
def floating (x : Double) : Floating := .finite x.negative (BinaryFormat.double.magnitude x.pattern)

/-- The number in a layout. -/
def text (x : Double) (layout : Layout) : String := x.floating.text layout

end Double

end ItemStore.Decimal
