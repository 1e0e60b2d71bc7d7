/-!
# ItemStore.Text.Source

Text as it arrives in a message: a sequence of characters in which some bytes may spell none.

A message body is read as UTF-8. Where bytes spell no character the body still has an outline that
can be read around them, so they are kept as gaps and not refused at once.
-/

namespace ItemStore.Text

/-- Characters in order; `none` stands for bytes that spell no character. -/
abbrev Source := List (Option Char)

namespace Source

/-- A text, all of whose characters are known. -/
def ofString (text : String) : Source := text.toList.map some

/-- A character under way: its bits so far, the bytes it still needs, and the least it may be. -/
structure Pending where
  /-- The bits of the bytes read. -/
  bits : Nat
  /-- How many more bytes it needs. -/
  due : Nat
  /-- Smaller numbers would have needed fewer bytes. -/
  least : Nat
deriving DecidableEq, Repr

/-- The character with a number, if the number is that of one and is not below `least`. -/
def character? (n least : Nat) : Option Char :=
  if n.isValidChar ∧ least ≤ n then some (Char.ofNat n) else none

/-- Starts a character with a byte: it is complete, under way, or cannot start so. -/
def start (byte : Nat) : Option Char ⊕ Pending :=
  if byte < 0x80 then .inl (some (Char.ofNat byte))
  else if 0xC0 ≤ byte ∧ byte < 0xE0 then .inr ⟨byte - 0xC0, 1, 0x80⟩
  else if 0xE0 ≤ byte ∧ byte < 0xF0 then .inr ⟨byte - 0xE0, 2, 0x800⟩
  else if 0xF0 ≤ byte ∧ byte < 0xF8 then .inr ⟨byte - 0xF0, 3, 0x10000⟩
  else .inl none

/-- The characters of the bytes behind those of a character under way, if there is one. -/
def decode : Option Pending → List UInt8 → Source
  | none, [] => []
  | some _, [] => [none]
  | none, byte :: rest =>
      match start byte.toNat with
      | .inl c => c :: decode none rest
      | .inr pending => decode (some pending) rest
  | some pending, byte :: rest =>
      let byte := byte.toNat
      if 0x80 ≤ byte ∧ byte < 0xC0 then
        let bits := 64 * pending.bits + (byte - 0x80)
        if pending.due ≤ 1 then character? bits pending.least :: decode none rest
        else decode (some { pending with bits := bits, due := pending.due - 1 }) rest
      else
        match start byte with
        | .inl c => none :: c :: decode none rest
        | .inr pending => none :: decode (some pending) rest

/-- The characters of a byte sequence. -/
def ofBytes (bytes : List UInt8) : Source := decode none bytes

end Source

/-- The bytes of characters in UTF-8. -/
def utf8 (chars : List Char) : List UInt8 := chars.flatMap String.utf8EncodeChar

end ItemStore.Text
