import Mathlib
import ItemStore.Text.Ascii

/-!
# ItemStore.Proofs.Text.LetterCase

Texts that differ in letter case only.

What counts as the same letter is said by the codes of the characters (`SameLetter`). Texts are the
same up to case exactly if they are the same in capitals (`upper_eq_iff`), so comparing texts in
capitals takes no characters for the same but a small ASCII letter and its capital.
-/

namespace ItemStore.Text

/-! ### Letters -/

/-- Whether two characters are the same, or one ASCII letter that is a capital in one place. -/
def SameLetter (c d : Char) : Prop :=
  c = d ∨ isLetter c = true ∧ isLetter d = true ∧
    (d.toNat = c.toNat + 32 ∨ c.toNat = d.toNat + 32)

/-- The letters by their codes. -/
theorem isLetter_iff {c : Char} :
    isLetter c = true ↔ (65 ≤ c.toNat ∧ c.toNat ≤ 90) ∨ (97 ≤ c.toNat ∧ c.toNat ≤ 122) := by
  simp only [isLetter, Bool.or_eq_true, Bool.and_eq_true, decide_eq_true_eq]
  rfl

/-- The code of a capital: a small letter has lost 32. -/
theorem toNat_upperChar (c : Char) :
    (upperChar c).toNat = if 97 ≤ c.toNat ∧ c.toNat ≤ 122 then c.toNat - 32 else c.toNat := by
  have small : ('a' ≤ c && c ≤ 'z') = true ↔ 97 ≤ c.toNat ∧ c.toNat ≤ 122 := by
    simp only [Bool.and_eq_true, decide_eq_true_eq]
    rfl
  by_cases h : 97 ≤ c.toNat ∧ c.toNat ≤ 122
  · have valid : (c.toNat - 32).isValidChar := .inl (by omega)
    rw [upperChar, if_pos (small.2 h), if_pos h, Char.toNat_ofNat, if_pos valid]
  · rw [upperChar, if_neg (mt small.1 h), if_neg h]

theorem upperChar_eq_iff {c d : Char} : upperChar c = upperChar d ↔ SameLetter c d := by
  rw [SameLetter, isLetter_iff, isLetter_iff, ← Char.toNat_inj, ← Char.toNat_inj,
    toNat_upperChar, toNat_upperChar]
  split <;> split <;> omega

/-- What is the same letter as a letter is one. -/
theorem SameLetter.isLetter_eq {c d : Char} (h : SameLetter c d) : isLetter c = isLetter d := by
  rcases h with rfl | ⟨first, second, -⟩
  · rfl
  · rw [first, second]

theorem SameLetter.isWordChar_eq {c d : Char} (h : SameLetter c d) :
    isWordChar c = isWordChar d := by
  rcases h with rfl | ⟨first, second, -⟩
  · rfl
  · rw [isWordChar, isWordChar, first, second, Bool.true_or, Bool.true_or, Bool.true_or,
      Bool.true_or]

/-- A character beyond ASCII is the same letter as itself only. -/
theorem SameLetter.eq_of_le {c d : Char} (h : SameLetter c d)
    (beyond : 128 ≤ d.toNat) : c = d := by
  rcases h with same | ⟨-, letter, -⟩
  · exact same
  · have := isLetter_iff.1 letter
    omega

/-! ### Texts -/

/-- Whether two texts are the same up to the case of ASCII letters. -/
def SameUpToCase (text other : String) : Prop := List.Forall₂ SameLetter text.toList other.toList

/-- Texts are the same up to case if they are the same in capitals. -/
theorem upper_eq_iff {text other : String} :
    upper text = upper other ↔ SameUpToCase text other := by
  rw [upper, upper, String.ofList_inj, SameUpToCase, ← List.forall₂_eq_eq_eq,
    List.forall₂_map_left_iff, List.forall₂_map_right_iff]
  simp only [upperChar_eq_iff]

end ItemStore.Text
