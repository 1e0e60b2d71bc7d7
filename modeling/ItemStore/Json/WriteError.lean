import ItemStore.Text.Ascii

/-!
# ItemStore.Json.WriteError

Why a document could not be written.

Whoever writes a document says in words why that fails, and the words may end in a place of some
text: ` at line 3 column 4`.

Design points:

* The place is taken off the words. So those who tell the failure decide whether they tell the place
  too, and it has one form, whichever way its numbers were written.
* Lines count from one, and line zero stands for no place at all.
* Numbers beyond 64 bits are no place: then the words stay as they are.
-/

namespace ItemStore.Json

/-- A place in a text. -/
structure Place where
  line : Nat
  column : Nat
deriving DecidableEq, Repr

/-- The place in words, to follow other words. -/
def Place.text (place : Place) : String :=
  s!" at line {place.line} column {place.column}"

/-- Why a document could not be written. -/
structure WriteError where
  /-- What went wrong, in words. -/
  message : String
  /-- Where, if that is known. -/
  place : Option Place
deriving DecidableEq, Repr

namespace WriteError

/-- Takes a word off the end of a text that is given from its end. -/
def dropWord? (word : String) (reversed : List Char) : Option (List Char) :=
  let letters := word.toList.reverse
  if letters.isPrefixOf reversed then some (reversed.drop letters.length) else none

/-- Takes a number of 64 bits off the end of a text that is given from its end. -/
def dropNumber? (reversed : List Char) : Option (Nat × List Char) :=
  let digits := (reversed.takeWhile Text.isDigit).reverse
  (Text.boundedNat? UInt64.size (String.ofList digits)).map fun n =>
    (n, reversed.dropWhile Text.isDigit)

/-- Takes a place off the end of a text that is given from its end. -/
def dropPlace? (reversed : List Char) : Option (Place × List Char) := do
  let (column, rest) ← dropNumber? reversed
  let (line, rest) ← dropNumber? (← dropWord? " column " rest)
  return (⟨line, column⟩, ← dropWord? " at line " rest)

/-- The error that a text tells. -/
def ofText (text : String) : WriteError :=
  (dropPlace? text.toList.reverse).elim ⟨text, none⟩ fun (place, rest) =>
    ⟨String.ofList rest.reverse, if place.line = 0 then none else some place⟩

/-- The error in words, with its place. -/
def text (error : WriteError) : String :=
  error.message ++ error.place.elim "" Place.text

/-- Words that do not end in a place stay as they are. -/
theorem text_ofText {text : String} (h : dropPlace? text.toList.reverse = none) :
    (ofText text).text = text := by
  rw [ofText, h, Option.elim_none, WriteError.text, Option.elim_none, String.append_empty]

end WriteError

end ItemStore.Json
