import ItemStore.Decimal.Shortest

/-!
# ItemStore.Decimal.Layout

How a decimal number is laid out as text: with all its places, or with one digit in front of the
point and a power of ten.
-/

namespace ItemStore.Decimal

/-- The choices a number format makes. -/
structure Layout where
  /--
  The exponents of the leading digit for which all places are written, from the first bound up to
  but not including the second; without bounds all places are always written.
  -/
  positional : Option (Int × Int)
  /-- Whether a whole number written with all its places ends in `.0`. -/
  wholeMark : Bool
  /-- Which of two equally near decimals is written. -/
  tie : Tie
deriving DecidableEq, Repr

/-- All places, nothing after a whole number, and the greater of two equally near decimals. -/
def Layout.plain : Layout := ⟨none, false, .greater⟩

/-- The decimal digits of a number; zero has one. -/
def digitsOf (n : Nat) : List Char := Nat.toDigits 10 n

/-- The exponent of the leading digit. -/
def DecimalNumber.leadingExponent (number : DecimalNumber) : Int :=
  number.exponent + (digitsOf number.digits).length - 1

/-- Drops trailing zeros of the digits. -/
def withoutTrailingZeros (digits : List Char) : List Char :=
  match (digits.reverse.dropWhile (· == '0')).reverse with
  | [] => ['0']
  | kept => kept

/-- A number with all its places: the point stands after the digit of weight one. -/
def DecimalNumber.positionalText (number : DecimalNumber) (wholeMark : Bool) : List Char :=
  let digits := digitsOf number.digits
  if 0 ≤ number.exponent then
    digits ++ List.replicate number.exponent.toNat '0' ++ (if wholeMark then ['.', '0'] else [])
  else
    let places := (-number.exponent).toNat
    let padded := List.replicate (places + 1 - digits.length) '0' ++ digits
    let split := padded.length - places
    padded.take split ++ '.' :: padded.drop split

/-- A number as one digit, the others after a point, and a power of ten with its sign. -/
def DecimalNumber.scientificText (number : DecimalNumber) : List Char :=
  let exponent := number.leadingExponent
  let mark := if exponent < 0 then ['e', '-'] else ['e', '+']
  let tail := mark ++ digitsOf exponent.natAbs
  match withoutTrailingZeros (digitsOf number.digits) with
  | first :: second :: rest => first :: '.' :: second :: rest ++ tail
  | digits => digits ++ tail

/-- A number without its sign, as the layout has it. -/
def Layout.text (layout : Layout) (number : DecimalNumber) : List Char :=
  match layout.positional with
  | none => number.positionalText layout.wholeMark
  | some (least, below) =>
      let exponent := number.leadingExponent
      if least ≤ exponent && exponent < below then number.positionalText layout.wholeMark
      else number.scientificText

/--
A floating-point number as the layout has it: its shortest decimal, or the name of what it is.
-/
def Floating.text (layout : Layout) : Floating → String
  | .nan => "NaN"
  | .infinite negative => if negative then "-inf" else "inf"
  | .finite negative size =>
      String.ofList ((if negative then ['-'] else []) ++ layout.text (size.shortest layout.tie))

end ItemStore.Decimal
