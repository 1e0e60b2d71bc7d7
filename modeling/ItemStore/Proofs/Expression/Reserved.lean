import Mathlib
import ItemStore.Proofs.Expression.Projection
import ItemStore.Proofs.Text.LetterCase

/-!
# ItemStore.Proofs.Expression.Reserved

The look-up of reserved words agrees with a scan of the list.

Halving finds a word exactly if it stands between the bounds, in every ordered array
(`search_eq_true_iff`). What is left is about the one list: it is in order (`ordered_reservedWords`)
and in capitals (`upper_of_mem_reservedWords`).
-/

namespace ItemStore.Expression

open Text (SameLetter SameUpToCase isDigit isLetter isWordChar upper upper_eq_iff)

/-! ### Search by halving -/

/-- In an ordered array a word in front of another one is less. -/
theorem lt_of_getElem? {words : Array String} (ordered : words.toList.Pairwise (· < ·))
    {i j : Nat} {first second : String} (hi : words[i]? = some first)
    (hj : words[j]? = some second) (lt : i < j) : first < second := by
  rw [← Array.getElem?_toList] at hi hj
  obtain ⟨boundFirst, rfl⟩ := List.getElem?_eq_some_iff.1 hi
  obtain ⟨boundSecond, rfl⟩ := List.getElem?_eq_some_iff.1 hj
  exact List.pairwise_iff_getElem.1 ordered i j boundFirst boundSecond lt

/--
In an ordered array halving finds a word exactly if the word stands between the bounds. Each step
leaves out the middle at least, so there are steps enough if there are as many as words.
-/
theorem search_eq_true_iff {words : Array String} (ordered : words.toList.Pairwise (· < ·))
    {word : String} {steps low high : Nat} (enough : high ≤ low + steps)
    (bound : high ≤ words.size) :
    search words word steps low high = true ↔
      ∃ i, low ≤ i ∧ i < high ∧ words[i]? = some word := by
  induction steps generalizing low high with
  | zero => exact ⟨fun h => Bool.noConfusion h, fun ⟨i, lo, hi, _⟩ => by omega⟩
  | succ steps ih =>
      unfold search
      by_cases within : low < high
      · rw [if_pos within]
        have inside : low + (high - low) / 2 < words.size := by omega
        generalize mid : low + (high - low) / 2 = middle at inside
        obtain ⟨found, is⟩ : ∃ found, words[middle]? = some found :=
          ⟨_, Array.getElem?_eq_getElem inside⟩
        simp only [is]
        split
        · -- The word is less than the middle one, so it can only stand in front of it.
          rename_i less
          rw [ih (by omega) (by omega)]
          refine exists_congr fun i => and_congr_right fun lo => ?_
          refine ⟨fun ⟨hi, stands⟩ => ⟨by omega, stands⟩, fun ⟨hi, stands⟩ => ⟨?_, stands⟩⟩
          by_contra behind
          rcases Nat.eq_or_lt_of_le (Nat.le_of_not_lt behind) with same | further
          · rw [← same, is] at stands
            exact String.lt_irrefl word (Option.some.inj stands ▸ less)
          · exact String.lt_asymm less (lt_of_getElem? ordered is stands further)
        split
        · -- The word is greater than the middle one, so it can only stand behind it.
          rename_i greater
          rw [ih (by omega) (by omega)]
          refine exists_congr fun i => ?_
          refine ⟨fun ⟨lo, hi, stands⟩ => ⟨by omega, hi, stands⟩,
            fun ⟨lo, hi, stands⟩ => ⟨?_, hi, stands⟩⟩
          by_contra before
          rcases Nat.eq_or_lt_of_le (Nat.le_of_lt_succ (Nat.lt_of_not_le before)) with same | nearer
          · rw [same, is] at stands
            exact String.lt_irrefl word (Option.some.inj stands ▸ greater)
          · exact String.lt_asymm greater (lt_of_getElem? ordered stands is nearer)
        · rename_i notLess notGreater
          have same : found = word := String.le_antisymm notLess notGreater
          exact ⟨fun _ => ⟨middle, by omega, by omega, by rw [is, same]⟩, fun _ => rfl⟩
      · rw [if_neg within]
        exact ⟨fun h => Bool.noConfusion h, fun ⟨i, lo, hi, _⟩ => by omega⟩

/-! ### The list -/

/-- The words are in order and consist of capitals. Both in one look at the list. -/
theorem reservedWords_spelled :
    reservedWords.toList.IsChain (· < ·) ∧
      reservedWords.toList.all (fun entry => entry.toList.all fun c =>
        decide (65 ≤ c.toNat ∧ c.toNat ≤ 90)) = true := by
  decide +kernel

theorem ordered_reservedWords : reservedWords.toList.Pairwise (· < ·) :=
  List.isChain_iff_pairwise.1 reservedWords_spelled.1

theorem isCapital_of_mem_reservedWords {entry : String} (mem : entry ∈ reservedWords) {c : Char}
    (among : c ∈ entry.toList) : 65 ≤ c.toNat ∧ c.toNat ≤ 90 := by
  have chars := List.all_eq_true.1 reservedWords_spelled.2 entry (Array.mem_toList_iff.2 mem)
  exact of_decide_eq_true (List.all_eq_true.1 chars c among)

theorem upper_of_mem_reservedWords {entry : String} (mem : entry ∈ reservedWords) :
    upper entry = entry := by
  have kept : ∀ c ∈ entry.toList, Text.upperChar c = c := by
    intro c among
    have capital := isCapital_of_mem_reservedWords mem among
    rw [← Char.toNat_inj, Text.toNat_upperChar, if_neg (by omega)]
  rw [upper, List.map_congr_left kept, List.map_id', String.ofList_toList]

/-- The look-up finds a word exactly if a scan of the list does, whatever its letter case. -/
theorem isReserved_iff {word : String} :
    isReserved word = true ↔ ∃ entry ∈ reservedWords, SameUpToCase entry word := by
  rw [isReserved, search_eq_true_iff ordered_reservedWords (by omega) (le_refl _)]
  constructor
  · rintro ⟨i, -, -, stands⟩
    have mem := Array.mem_iff_getElem?.2 ⟨i, stands⟩
    exact ⟨_, mem, upper_eq_iff.1 (upper_of_mem_reservedWords mem)⟩
  · rintro ⟨entry, mem, same⟩
    obtain ⟨i, stands⟩ := Array.mem_iff_getElem?.1 mem
    rw [← upper_eq_iff, upper_of_mem_reservedWords mem] at same
    exact ⟨i, Nat.zero_le i, (Array.getElem?_eq_some_iff.1 stands).1, same ▸ stands⟩

/-- Words that are the same up to case are reserved alike. -/
theorem isReserved_eq {word other : String} (same : SameUpToCase word other) :
    isReserved word = isReserved other := by
  rw [isReserved, isReserved, upper_eq_iff.2 same]

/-! ### Identifiers -/

/-- Whether a name is an ASCII letter and, behind it, ASCII letters, digits and underscores. -/
def IsIdentifier (name : String) : Prop :=
  ∃ first rest, name.toList = first :: rest ∧ isLetter first = true ∧
    ∀ c ∈ rest, isLetter c = true ∨ isDigit c = true ∨ c = '_'

theorem isBare_iff {name : String} : isBare name = true ↔ IsIdentifier name := by
  unfold isBare IsIdentifier
  cases name.toList with
  | nil => simp
  | cons first rest => simp [isWordChar, or_assoc]

/-- Names that are the same up to case are identifiers alike. -/
theorem isBare_eq {name other : String} (same : SameUpToCase name other) :
    isBare name = isBare other := by
  unfold SameUpToCase at same
  unfold isBare
  generalize name.toList = chars at same
  generalize other.toList = others at same
  cases same with
  | nil => rfl
  | @cons first firstOther rest restOther sameFirst sameRest =>
      have words : rest.map isWordChar = restOther.map isWordChar := by
        rw [← List.forall₂_eq_eq_eq, List.forall₂_map_left_iff, List.forall₂_map_right_iff]
        exact sameRest.imp fun _ _ same => same.isWordChar_eq
      have all : rest.all isWordChar = restOther.all isWordChar := by
        have mapped := congrArg (List.all · id) words
        rwa [List.all_map, List.all_map] at mapped
      show (isLetter first && rest.all isWordChar) =
        (isLetter firstOther && restOther.all isWordChar)
      rw [sameFirst.isLetter_eq, all]

/-- A word with a character beyond ASCII is the same up to case as no reserved word. -/
theorem not_sameUpToCase_of_beyond {entry word : String} (mem : entry ∈ reservedWords) {c : Char}
    (among : c ∈ word.toList) (beyond : 128 ≤ c.toNat) : ¬SameUpToCase entry word := by
  intro same
  obtain ⟨d, amongEntry, letter⟩ : ∃ d ∈ entry.toList, SameLetter d c := by
    obtain ⟨i, bound, rfl⟩ := List.getElem_of_mem among
    obtain ⟨lengths, each⟩ := List.forall₂_iff_get.1 same
    exact ⟨_, List.getElem_mem (lengths ▸ bound), each i (lengths ▸ bound) bound⟩
  -- Then the reserved word would have the character.
  have capital := isCapital_of_mem_reservedWords mem amongEntry
  rw [letter.eq_of_le beyond] at capital
  omega

/-! ### The look-up and the scan -/

/--
A word is reserved exactly if it is the same up to case as some word of the list, and a name can be
written as it is exactly if it is an identifier and not reserved. A word with a character beyond
ASCII is the same as no word of the list, so it is not reserved and needs a placeholder. Letter case
makes no difference to either answer.
-/
theorem lookup_agrees_with_scan (word : String) :
    (isReserved word = true ↔ ∃ entry ∈ reservedWords, SameUpToCase entry word) ∧
    (needsPlaceholder word = false ↔
      IsIdentifier word ∧ ¬∃ entry ∈ reservedWords, SameUpToCase entry word) ∧
    (∀ c ∈ word.toList, 128 ≤ c.toNat →
      (∀ entry ∈ reservedWords, ¬SameUpToCase entry word) ∧ isReserved word = false ∧
        needsPlaceholder word = true) ∧
    ∀ other, SameUpToCase word other →
      isReserved other = isReserved word ∧ needsPlaceholder other = needsPlaceholder word := by
  have scan : isReserved word = true ↔ ∃ entry ∈ reservedWords, SameUpToCase entry word :=
    isReserved_iff
  have needs : needsPlaceholder word = false ↔
      IsIdentifier word ∧ ¬∃ entry ∈ reservedWords, SameUpToCase entry word := by
    rw [needsPlaceholder, Bool.or_eq_false_iff, Bool.not_eq_false', isBare_iff, ← scan,
      Bool.not_eq_true]
  refine ⟨scan, needs, fun c among beyond => ?_, fun other same => ?_⟩
  · have absent : ∀ entry ∈ reservedWords, ¬SameUpToCase entry word :=
      fun _ mem => not_sameUpToCase_of_beyond mem among beyond
    have free : isReserved word = false := by
      rw [← Bool.not_eq_true, scan]
      intro found
      obtain ⟨entry, mem, same⟩ := found
      exact absent entry mem same
    have bare : isBare word = false := by
      rw [← Bool.not_eq_true]
      intro bare
      have range := range_of_isWordChar ((isWord_of_isBare bare).1 c among)
      omega
    refine ⟨absent, free, ?_⟩
    rw [needsPlaceholder, bare, Bool.not_false, Bool.true_or]
  · rw [needsPlaceholder, needsPlaceholder, isReserved_eq same, isBare_eq same]
    exact ⟨rfl, rfl⟩

/-- Any letter case is found, but no look-alike of a letter, and no part of a word. -/
example : isReserved "sTaTuS" = true ∧ isReserved "\u017ftatus" = false ∧
    isReserved "STATU" = false ∧ needsPlaceholder "Statu_1" = false := by
  decide +kernel

end ItemStore.Expression
