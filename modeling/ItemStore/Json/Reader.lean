import ItemStore.Json.Outline
import ItemStore.Text.Ascii
import ItemStore.Text.Source

/-!
# ItemStore.Json.Reader

Reads the outline of a text by the grammar of RFC 8259: no comments, no trailing commas, no leading
zeros, no control characters in strings, and no white space but blank, tab, line feed and carriage
return.

Design points:

* A reader returns what it found and the rest of the text, or no rest where the text broke off; then
  the readers around it finish without looking further.
* `value`, `items` and `members` call each other at most twice per character, so twice the length of
  the text bounds the depth of their recursion.
* A string is first cut into pieces and then spelled: whether it is well-formed and whether it is a
  text are two questions.
* A floating-point number is computed from the first digits, as many as 64 bits hold, and a power of
  ten. It need not be the one nearest to the number that is written.
-/

namespace ItemStore.Json.Reader

open Text (Source)

/-- White space between the parts of a document. -/
def isSpace (c : Option Char) : Bool :=
  c == some ' ' || c == some '\t' || c == some '\n' || c == some '\r'

/-- Skips white space. -/
def skip (source : Source) : Source := source.dropWhile isSpace

/-! ### Strings -/

/-- A part of a string. -/
inductive Piece
  /-- A character, or an escape that stands for one. -/
  | char (c : Char)
  /-- A unit of UTF-16, written by its number. -/
  | unit (n : Nat)
  /-- Bytes that spell no character. -/
  | gap
deriving DecidableEq, Repr

/-- The value of a hexadecimal digit. -/
def hexValue? (c : Char) : Option Nat :=
  if Text.isDigit c then some (c.toNat - '0'.toNat)
  else if 'a' ≤ c && c ≤ 'f' then some (c.toNat - 'a'.toNat + 10)
  else if 'A' ≤ c && c ≤ 'F' then some (c.toNat - 'A'.toNat + 10)
  else none

/-- The number that four hexadecimal digits spell. -/
def hexNumber? (a b c d : Char) : Option Nat := do
  return 4096 * (← hexValue? a) + 256 * (← hexValue? b) + 16 * (← hexValue? c) + (← hexValue? d)

/-- The character that a letter behind a backslash stands for. -/
def escape? : Char → Option Char
  | '"' => some '"'
  | '\\' => some '\\'
  | '/' => some '/'
  | 'b' => some '\x08'
  | 'f' => some '\x0c'
  | 'n' => some '\n'
  | 'r' => some '\r'
  | 't' => some '\t'
  | _ => none

/-- The pieces of a string up to its closing quote, and what follows that. -/
def pieces : Source → Option (List Piece × Source)
  | [] => none
  | some '"' :: rest => some ([], rest)
  | some '\\' :: some 'u' :: some a :: some b :: some c :: some d :: rest =>
      match hexNumber? a b c d with
      | none => none
      | some n => (pieces rest).map fun (more, after) => (.unit n :: more, after)
  | some '\\' :: some c :: rest =>
      match escape? c with
      | none => none
      | some c => (pieces rest).map fun (more, after) => (.char c :: more, after)
  | some '\\' :: _ => none
  | some c :: rest =>
      if c.toNat < 0x20 then none
      else (pieces rest).map fun (more, after) => (.char c :: more, after)
  | none :: rest => (pieces rest).map fun (more, after) => (.gap :: more, after)

/-- The first half of a surrogate pair. -/
def isHighSurrogate (n : Nat) : Bool := 0xD800 ≤ n && n < 0xDC00

/-- The second half of a surrogate pair. -/
def isLowSurrogate (n : Nat) : Bool := 0xDC00 ≤ n && n < 0xE000

/-- The characters that the pieces spell; surrogates count in pairs only. -/
def spell : List Piece → Option (List Char)
  | [] => some []
  | .char c :: rest => (spell rest).map (c :: ·)
  | .gap :: _ => none
  | .unit n :: .unit m :: rest =>
      if isHighSurrogate n && isLowSurrogate m then
        (spell rest).map (Char.ofNat (0x10000 + (n - 0xD800) * 0x400 + (m - 0xDC00)) :: ·)
      else if isHighSurrogate n || isLowSurrogate n then none
      else (spell (.unit m :: rest)).map (Char.ofNat n :: ·)
  | .unit n :: rest =>
      if isHighSurrogate n || isLowSurrogate n then none
      else (spell rest).map (Char.ofNat n :: ·)

/-- The text that a string spells, and what follows its closing quote. -/
def string (source : Source) : Option (Option String × Source) :=
  (pieces source).map fun (found, rest) => ((spell found).map String.ofList, rest)

/-! ### Numbers -/

/-- The decimal digits in front. -/
def digits : Source → List Char × Source
  | some c :: rest =>
      if Text.isDigit c then
        let (more, after) := digits rest
        (c :: more, after)
      else ([], some c :: rest)
  | source => ([], source)

/-- The parts of a number. -/
structure NumberParts where
  /-- Whether there is a minus sign. -/
  negative : Bool
  /-- The digits before the point. -/
  whole : List Char
  /-- The digits behind the point, if there is one. -/
  fraction : Option (List Char)
  /-- The power of ten, if there is one. -/
  exponent : Option Int
deriving DecidableEq, Repr

/-- A point with digits, if there is one in front; a point without digits breaks the text off. -/
def fraction : Source → Option (Option (List Char) × Source)
  | some '.' :: rest =>
      match digits rest with
      | ([], _) => none
      | (found, after) => some (some found, after)
  | source => some (none, source)

/-- The digits of an exponent, which may not be missing. -/
def exponentDigits (negative : Bool) (source : Source) : Option (Option Int × Source) :=
  match digits source with
  | ([], _) => none
  | (found, after) =>
      let n : Int := Text.decimalValue found
      some (some (if negative then -n else n), after)

/-- An exponent, if there is one in front. -/
def exponent : Source → Option (Option Int × Source)
  | some c :: rest =>
      if c = 'e' ∨ c = 'E' then
        match rest with
        | some '+' :: rest => exponentDigits false rest
        | some '-' :: rest => exponentDigits true rest
        | rest => exponentDigits false rest
      else some (none, some c :: rest)
  | source => some (none, source)

/-- A number without its sign. -/
def unsigned (negative : Bool) (source : Source) : Option (NumberParts × Source) :=
  match digits source with
  | ([], _) => none
  | ('0' :: _ :: _, _) => none
  | (whole, rest) => do
      let (fraction, rest) ← fraction rest
      let (exponent, rest) ← exponent rest
      return (⟨negative, whole, fraction, exponent⟩, rest)

/-- The parts of a number, and what follows. -/
def numberParts : Source → Option (NumberParts × Source)
  | some '-' :: rest => unsigned true rest
  | source => unsigned false source

/-- The number that 64 bits hold of the digits behind others, and the digits that are left over. -/
def significand (front : Nat) : List Char → Nat × List Char
  | [] => (front, [])
  | c :: rest =>
      let more := 10 * front + Text.digitValue c
      if more < UInt64.size then significand more rest else (front, c :: rest)

/--
The number with these parts. One without point and exponent is an integer if 64 bits hold it, signed
or unsigned; minus zero and all others are floating-point numbers, if that has a number for them.
Digits before the point that 64 bits do not hold count as zeros, and those behind it do not count.
-/
def NumberParts.number? (parts : NumberParts) : Option Number :=
  let whole := Text.decimalValue parts.whole
  let small := if parts.negative then 0 < whole && whole ≤ UInt64.size / 2 else whole < UInt64.size
  if parts.fraction.isNone && parts.exponent.isNone && small then
    some (.integer (if parts.negative then -whole else whole))
  else
    let places := parts.fraction.getD []
    let (front, zeros) := significand 0 parts.whole
    let (all, cut) := significand front places
    let exponent := parts.exponent.getD 0 + zeros.length - (places.length - cut.length : Nat)
    (Decimal.Double.ofDecimal? parts.negative all exponent).map .real

/-! ### Values -/

/-- A value without inner structure, and what follows; `none` where there is neither. -/
def scalar : Source → Option (Outline × Source)
  | some 'n' :: some 'u' :: some 'l' :: some 'l' :: rest => some (.null, rest)
  | some 't' :: some 'r' :: some 'u' :: some 'e' :: rest => some (.bool true, rest)
  | some 'f' :: some 'a' :: some 'l' :: some 's' :: some 'e' :: rest => some (.bool false, rest)
  | some '"' :: rest => (string rest).map fun (s, rest) => (.string s, rest)
  | source => (numberParts source).map fun (parts, rest) => (.number parts.number?, rest)

/--
Where the next item or member of a list starts: at once for the first, else behind a comma, which
the closing character may not follow.
-/
def next (closing : Char) (first : Bool) (source : Source) : Option Source :=
  if first then some source
  else
    match source with
    | some ',' :: rest =>
        match skip rest with
        | some c :: rest => if c = closing then none else some (some c :: rest)
        | rest => some rest
    | _ => none

mutual

/-- A value, and what follows it. -/
def value : (depth : Nat) → Source → Outline × Option Source
  | 0, _ => (.broken, none)
  | depth + 1, source =>
      match skip source with
      | some '[' :: rest =>
          let (items, closed, after) := items depth true rest
          (.array items closed, after)
      | some '\x7b' :: rest =>
          let (members, closed, after) := members depth true rest
          (.object members closed, after)
      | source =>
          match scalar source with
          | some (found, rest) => (found, some rest)
          | none => (.broken, none)

/-- The items of an array from the first or a later one on, whether it ends, and what follows it. -/
def items : (depth : Nat) → (first : Bool) → Source → List Outline × Bool × Option Source
  | 0, _, _ => ([], false, none)
  | depth + 1, first, source =>
      match skip source with
      | some ']' :: rest => ([], true, some rest)
      | source =>
          match next ']' first source with
          | none => ([], false, none)
          | some source =>
              match value depth source with
              | (item, none) => ([item], false, none)
              | (item, some rest) =>
                  let (more, closed, after) := items depth false rest
                  (item :: more, closed, after)

/--
The members of an object from the first or a later one on, whether it ends, and what follows it.
-/
def members : (depth : Nat) → (first : Bool) → Source →
    List (Option String × Outline) × Bool × Option Source
  | 0, _, _ => ([], false, none)
  | depth + 1, first, source =>
      match skip source with
      | some '\x7d' :: rest => ([], true, some rest)
      | source =>
          match next '\x7d' first source with
          | none => ([], false, none)
          | some (some '"' :: rest) =>
              match string rest with
              | none => ([], false, none)
              | some (name, rest) =>
                  match skip rest with
                  | some ':' :: rest =>
                      match value depth rest with
                      | (found, none) => ([(name, found)], false, none)
                      | (found, some rest) =>
                          let (more, closed, after) := members depth false rest
                          ((name, found) :: more, closed, after)
                  | _ => ([(name, .broken)], false, none)
          | some _ => ([], false, none)

end

end ItemStore.Json.Reader

namespace ItemStore.Json

/-- The outline of a text, and whether nothing but white space follows it. -/
structure Outline.Text where
  outline : Outline
  /-- Whether the text ends there. -/
  ended : Bool

/-- Reads a text. -/
def Outline.read (source : ItemStore.Text.Source) : Outline.Text :=
  match Reader.value (2 * source.length + 2) source with
  | (found, none) => ⟨found, false⟩
  | (found, some rest) => ⟨found, (Reader.skip rest).isEmpty⟩

end ItemStore.Json
