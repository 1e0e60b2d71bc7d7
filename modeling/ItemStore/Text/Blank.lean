/-!
# ItemStore.Text.Blank

Blank texts: texts with no character outside Unicode's `White_Space` property. Names, conditions and
fragments that are blank ask for nothing, so the builders refuse or skip them.

The zero-width characters (U+200B, U+FEFF) and the separators U+001C to U+001F do not have the
property.
-/

namespace ItemStore.Text

/-- Whether a character has Unicode's `White_Space` property. -/
def isWhiteSpace (c : Char) : Bool :=
  let n := c.toNat
  (0x9 ≤ n && n ≤ 0xD) || n == 0x20 || n == 0x85 || n == 0xA0 || n == 0x1680 ||
    (0x2000 ≤ n && n ≤ 0x200A) || n == 0x2028 || n == 0x2029 || n == 0x202F || n == 0x205F ||
    n == 0x3000

/-- Whether a text has no character outside white space; the empty text is blank. -/
def isBlank (text : String) : Bool := text.toList.all isWhiteSpace

@[simp] theorem isBlank_empty : isBlank "" = true := rfl

/-- A text is blank unless some character of it is not white space. -/
theorem isBlank_eq_false_iff {text : String} :
    isBlank text = false ↔ ∃ c ∈ text.toList, isWhiteSpace c = false := by
  simp [isBlank]

/-- Joined texts are blank if both are. -/
theorem isBlank_append (text more : String) :
    isBlank (text ++ more) = (isBlank text && isBlank more) := by
  simp [isBlank]

end ItemStore.Text
