import ItemStore.Text.Source

/-!
# ItemStore.Base64

Binary data as text: the alphabet of RFC 4648 with padding, strictly. Every byte sequence has one
text, and only such texts are read back.

Design points:

* `encode` works on groups of three bytes, `decode` on groups of four characters. All groups but the
  last hold four symbols each; only the last may hold padding.
* A refused text names its fault by the first offending byte, so `decode` works on the UTF-8 bytes
  of the text and counts offsets in them.
-/

namespace ItemStore.Base64

/-- The symbol of a value below 64. -/
def symbol (n : Nat) : Char :=
  if n < 26 then Char.ofNat ('A'.toNat + n)
  else if n < 52 then Char.ofNat ('a'.toNat + (n - 26))
  else if n < 62 then Char.ofNat ('0'.toNat + (n - 52))
  else if n = 62 then '+'
  else '/'

/-- The value of a symbol, given as a byte. -/
def value? (b : UInt8) : Option Nat :=
  let n := b.toNat
  if 65 ≤ n ∧ n ≤ 90 then some (n - 65)
  else if 97 ≤ n ∧ n ≤ 122 then some (n - 97 + 26)
  else if 48 ≤ n ∧ n ≤ 57 then some (n - 48 + 52)
  else if n = 43 then some 62
  else if n = 47 then some 63
  else none

/-- The padding character. -/
def pad : Char := '='

/-- The padding character as a byte. -/
def padByte : UInt8 := 61

/-! ### Writing -/

/-- The characters of a byte sequence. -/
def encodeBytes : List UInt8 → List Char
  | [] => []
  | [a] =>
      let a := a.toNat
      [symbol (a / 4), symbol (a % 4 * 16), pad, pad]
  | [a, b] =>
      let a := a.toNat; let b := b.toNat
      [symbol (a / 4), symbol (a % 4 * 16 + b / 16), symbol (b % 16 * 4), pad]
  | a :: b :: c :: rest =>
      let a := a.toNat; let b := b.toNat; let c := c.toNat
      symbol (a / 4) :: symbol (a % 4 * 16 + b / 16) :: symbol (b % 16 * 4 + c / 64)
        :: symbol (c % 64) :: encodeBytes rest

/-- The text of a byte sequence. -/
def encode (bytes : List UInt8) : String := String.ofList (encodeBytes bytes)

/-! ### Reading -/

/-- Why a text is refused. Offsets count bytes from the start of the text. -/
inductive Error
  /-- A byte that is no symbol, or padding where none may stand. -/
  | symbol (byte : UInt8) (offset : Nat)
  /-- A last group of one symbol, which is too short for a byte; the length leads up to its end. -/
  | length (length : Nat)
  /-- A last symbol with bits set that belong to no byte. -/
  | lastSymbol (byte : UInt8) (offset : Nat)
  /-- A last group that padding does not fill up. -/
  | padding
deriving DecidableEq, Repr

/-- The fault in words. -/
def Error.message : Error → String
  | .symbol byte offset => s!"Invalid symbol {byte.toNat}, offset {offset}."
  | .length n => s!"Invalid input length: {n}"
  | .lastSymbol byte offset => s!"Invalid last symbol {byte.toNat}, offset {offset}."
  | .padding => "Invalid padding"

/-- The value of a byte at an offset, which must be a symbol. -/
def valueAt (b : UInt8) (offset : Nat) : Except Error Nat :=
  match value? b with
  | some n => .ok n
  | none => .error (.symbol b offset)

/-- The byte with a given value. -/
private def byte (n : Nat) : UInt8 := UInt8.ofNat n

/-- What the last group has shown so far: its symbols with their bytes, and its padding. -/
structure Tail where
  /-- The symbols, each with its value. -/
  symbols : List (UInt8 × Nat)
  /-- The number of padding characters behind them. -/
  pads : Nat
deriving DecidableEq, Repr

/--
Reads the bytes of the last group, at most four, in order. Padding may not be the first or second
character, and no symbol may follow it: then the first padding character is at fault.
-/
def tail (start : Nat) : List UInt8 → Tail → Except Error Tail
  | [], group => .ok group
  | b :: rest, group =>
      let index := group.symbols.length + group.pads
      if b = padByte then
        if index < 2 then .error (.symbol b (start + index))
        else tail start rest { group with pads := group.pads + 1 }
      else if 0 < group.pads then .error (.symbol padByte (start + group.symbols.length))
      else
        match value? b with
        | none => .error (.symbol b (start + index))
        | some n => tail start rest { group with symbols := group.symbols ++ [(b, n)] }

/-- The bytes of a complete last group. Bits of its last symbol beyond them must be zero. -/
def finish (start : Nat) (group : Tail) : Except Error (List UInt8) :=
  let count := group.symbols.length
  if count < 2 then .error (.length (start + count))
  else if (count + group.pads) % 4 ≠ 0 then .error .padding
  else
    match group.symbols with
    | [(_, a), (last, b)] =>
        if b % 16 = 0 then .ok [byte (a * 4 + b / 16)]
        else .error (.lastSymbol last (start + 1))
    | [(_, a), (_, b), (last, c)] =>
        if c % 4 = 0 then .ok [byte (a * 4 + b / 16), byte (b % 16 * 16 + c / 4)]
        else .error (.lastSymbol last (start + 2))
    | [(_, a), (_, b), (_, c), (_, d)] =>
        .ok [byte (a * 4 + b / 16), byte (b % 16 * 16 + c / 4), byte (c % 4 * 64 + d)]
    | _ => .error (.length (start + count))

/-- Reads the groups from an offset on. -/
def decodeGroups (offset : Nat) : List UInt8 → Except Error (List UInt8)
  | [] => .ok []
  | a :: b :: c :: d :: e :: rest => do
      let a ← valueAt a offset
      let b ← valueAt b (offset + 1)
      let c ← valueAt c (offset + 2)
      let d ← valueAt d (offset + 3)
      let bytes ← decodeGroups (offset + 4) (e :: rest)
      return byte (a * 4 + b / 16) :: byte (b % 16 * 16 + c / 4) :: byte (c % 4 * 64 + d) :: bytes
  | last => do finish offset (← tail offset last ⟨[], 0⟩)

/--
The bytes that a sequence of characters, given as bytes, stands for. A single byte left over that is
neither a symbol nor padding is the fault to report, before any other.
-/
def decodeBytes (input : List UInt8) : Except Error (List UInt8) :=
  match input.getLast? with
  | none => .ok []
  | some last =>
      if input.length % 4 = 1 ∧ last ≠ padByte ∧ value? last = none then
        .error (.symbol last (input.length - 1))
      else decodeGroups 0 input

/-- The bytes that a text stands for. -/
def decode (text : String) : Except Error (List UInt8) :=
  decodeBytes (Text.utf8 text.toList)

end ItemStore.Base64
