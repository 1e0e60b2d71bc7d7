/-!
# ItemStore.Text.Ascii

Letters, digits and letter case as ASCII has them. Wire names, reserved words and placeholders are
ASCII, and every other character stays as it is under these functions.
-/

namespace ItemStore.Text

/-- `A` to `Z` or `a` to `z`. -/
def isLetter (c : Char) : Bool :=
  ('A' ≤ c && c ≤ 'Z') || ('a' ≤ c && c ≤ 'z')

/-- `0` to `9`. -/
def isDigit (c : Char) : Bool := '0' ≤ c && c ≤ '9'

/-- A letter, a digit or the underscore. -/
def isWordChar (c : Char) : Bool := isLetter c || isDigit c || c == '_'

/-- The capital of a small letter; any other character itself. -/
def upperChar (c : Char) : Char :=
  if 'a' ≤ c && c ≤ 'z' then Char.ofNat (c.toNat - 32) else c

/-- A text with its small letters made capital. -/
def upper (text : String) : String := String.ofList (text.toList.map upperChar)

/-- What a digit counts; other characters count nothing. -/
def digitValue (c : Char) : Nat := if isDigit c then c.toNat - '0'.toNat else 0

/-- The number that decimal digits spell, most significant first. -/
def decimalValue (digits : List Char) : Nat :=
  digits.foldl (fun n c => 10 * n + digitValue c) 0

/--
The number below `bound` that a text spells in decimal digits. One plus sign may stand in front and
leading zeros may be there; blanks, other signs and separators may not.
-/
def boundedNat? (bound : Nat) (text : String) : Option Nat :=
  let digits := match text.toList with
    | '+' :: rest => rest
    | other => other
  if digits.isEmpty || !digits.all isDigit then none
  else
    let n := decimalValue digits
    if n < bound then some n else none

end ItemStore.Text
