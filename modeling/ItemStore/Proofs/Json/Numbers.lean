import Mathlib
import ItemStore.Proofs.Decimal.Intervals
import ItemStore.Proofs.Json.Grammar

/-!
# ItemStore.Proofs.Json.Numbers

Numbers that are written and read.

What is written for a number is read as its parts: the sign, the digits and the exponent
(`exists_parts`). An integer has no other parts than its digits, and the parts of a floating-point
number stand for a decimal in the interval of numbers that round to it. So different numbers are
written in different ways (`Number.text_injective`).
-/

namespace ItemStore.Json

namespace Reader

open Decimal (DecimalNumber Double areDigits_digitsOf decimalValue_digitsOf digitsOf digitsOf_ne_nil
  digitsOf_append_ne_zero_cons digitsOf_ne_zero_cons exists_replicate_zero withoutTrailingZeros
  withoutTrailingZeros_ne_nil)
open ItemStore.Text (AreDigits Source decimalValue)

/-! ### Parts that are read -/

/-- What is written for a point with digits, if there is one. -/
def fractionText : Option (List Char) → List Char
  | none => []
  | some places => '.' :: places

/-- What is written for an exponent, if there is one. -/
def exponentText : Option Int → List Char
  | none => []
  | some n => (if n < 0 then ['e', '-'] else ['e', '+']) ++ digitsOf n.natAbs

theorem digits_map_append {found : List Char} (are : AreDigits found) (filled : found ≠ [])
    (rest : Source) : Digits found (found.map some ++ rest) rest :=
  .run filled fun c mem => isDigit_iff_mem.1 (are c mem)

theorem exponent_exponentText (power : Option Int) :
    Exponent power ((exponentText power).map some) [] := by
  cases power with
  | none => exact .none
  | some n =>
      have found := digits_map_append (areDigits_digitsOf n.natAbs) (digitsOf_ne_nil _) []
      rw [List.append_nil] at found
      rw [exponentText]
      split
      · have read := Exponent.minus (.inl rfl) found
        rwa [decimalValue_digitsOf, show -(n.natAbs : Int) = n by omega] at read
      · have read := Exponent.plus (.inl rfl) found
        rwa [decimalValue_digitsOf, show (n.natAbs : Int) = n by omega] at read

theorem fraction_fractionText {places : Option (List Char)}
    (h : ∀ found, places = some found → AreDigits found ∧ found ≠ []) (rest : Source) :
    Fraction places ((fractionText places).map some ++ rest) rest := by
  cases places with
  | none => exact .none
  | some found =>
      obtain ⟨are, filled⟩ := h found rfl
      exact .places (digits_map_append are filled rest)

namespace NumberParts

/-- What is written for the parts of a number behind the sign. -/
def unsignedText (parts : NumberParts) : List Char :=
  parts.whole ++ (fractionText parts.fraction ++ exponentText parts.exponent)

/-- What is written for the parts of a number. -/
def text (parts : NumberParts) : List Char :=
  (if parts.negative then ['-'] else []) ++ parts.unsignedText

/-- Whether the parts are those of a number: digits, and no zero in front of others. -/
structure WellFormed (parts : NumberParts) : Prop where
  whole : AreDigits parts.whole
  filled : parts.whole ≠ []
  leading : ∀ c rest, parts.whole ≠ '0' :: c :: rest
  places : ∀ places, parts.fraction = some places → AreDigits places ∧ places ≠ []

variable {parts : NumberParts}

theorem WellFormed.unsigned_unsignedText (h : parts.WellFormed) :
    Unsigned parts (parts.unsignedText.map some) [] := by
  rw [unsignedText, List.map_append, List.map_append]
  exact .parts (digits_map_append h.whole h.filled _) h.leading (fraction_fractionText h.places _)
    (exponent_exponentText parts.exponent)

/-- What is written for the parts of a number is read as these. -/
theorem WellFormed.numberParts_text (h : parts.WellFormed) :
    numberParts (parts.text.map some) = some (parts, []) := by
  refine Numeral.numberParts_eq ?_ endsNumber_nil
  have unsigned := h.unsigned_unsignedText
  rw [text]
  cases negative : parts.negative with
  | true => exact .negative negative unsigned
  | false => exact .positive negative unsigned

/-- The number that the parts stand for, without the sign. -/
def value (parts : NumberParts) : ℚ :=
  decimalValue (parts.whole ++ parts.fraction.getD []) *
    10 ^ (parts.exponent.getD 0 - (parts.fraction.getD []).length)

/-- Whether a text without a sign has parts that stand for a decimal, and more than whole digits. -/
structure Spells (parts : NumberParts) (chars : List Char) (number : DecimalNumber) : Prop where
  wellFormed : parts.WellFormed
  text : parts.unsignedText = chars
  marked : parts.fraction.isSome = true ∨ parts.exponent.isSome = true
  value : parts.value = number.value

end NumberParts

/-! ### Layouts -/

variable {number : DecimalNumber}

/-- A number with all its places, none of them behind the point. -/
theorem spells_whole (negative : Bool) (zero : number.digits = 0 → number.exponent = 0)
    (whole : 0 ≤ number.exponent) :
    NumberParts.Spells ⟨negative,
      digitsOf number.digits ++ List.replicate number.exponent.toNat '0', some ['0'], none⟩
      (number.positionalText true) number where
  wellFormed := by
    refine ⟨(areDigits_digitsOf _).append (Text.areDigits_replicate_zero _),
      List.append_ne_nil_of_left_ne_nil (digitsOf_ne_nil _) _, fun c rest eq => ?_, ?_⟩
    · by_cases none : number.digits = 0
      · rw [none, zero none] at eq
        cases eq
      · exact digitsOf_append_ne_zero_cons none _ _ eq
    · rintro places ⟨⟩
      exact ⟨Text.areDigits_replicate_zero 1, List.cons_ne_nil _ _⟩
  text := by
    rw [DecimalNumber.positionalText, if_pos whole, if_pos rfl]
    rfl
  marked := .inl rfl
  value := by
    have power : (10 : ℚ) ^ number.exponent = 10 ^ number.exponent.toNat := by
      rw [← zpow_natCast, Int.toNat_of_nonneg whole]
    have mark : decimalValue ['0'] = 0 := rfl
    simp only [NumberParts.value, DecimalNumber.value, Option.getD_some, Option.getD_none,
      Text.decimalValue_append, Text.decimalValue_replicate_zero, decimalValue_digitsOf, mark,
      List.length_replicate, List.length_singleton, power]
    push_cast
    ring

/-- The digits of a number with zeros in front, so that one stands before so many places. -/
def padded (n places : Nat) : List Char :=
  List.replicate (places + 1 - (digitsOf n).length) '0' ++ digitsOf n

theorem decimalValue_padded (n places : Nat) : decimalValue (padded n places) = n := by
  rw [padded, Text.decimalValue_append, Text.decimalValue_replicate_zero, decimalValue_digitsOf]
  omega

/-- In front of the places stand the first digits of the number, or a single zero. -/
theorem exists_padded_eq {n : Nat} (filled : n ≠ 0) (places : Nat) :
    ∃ whole behind, padded n places = whole ++ behind ∧ behind.length = places ∧ whole ≠ [] ∧
      ∀ c rest, whole ≠ '0' :: c :: rest := by
  have length : (padded n places).length = max (places + 1) (digitsOf n).length := by
    rw [padded, List.length_append, List.length_replicate]
    omega
  refine ⟨_, _, (List.take_append_drop ((padded n places).length - places) _).symm, ?_, ?_, ?_⟩
  · rw [List.length_drop]
    omega
  · intro none
    rw [← List.length_eq_zero_iff, List.length_take] at none
    omega
  · intro c rest eq
    by_cases long : places < (digitsOf n).length
    · have plain : padded n places = digitsOf n := by
        rw [padded, Nat.sub_eq_zero_of_le long]
        rfl
      have all := List.take_append_drop ((padded n places).length - places) (padded n places)
      rw [eq, plain, List.cons_append] at all
      exact digitsOf_ne_zero_cons filled _ all.symm
    · have one := congrArg List.length eq
      rw [List.length_take, List.length_cons, List.length_cons] at one
      omega

/-- A number with all its places, some of them behind the point. -/
theorem spells_places (negative : Bool) (filled : number.digits ≠ 0)
    (below : number.exponent < 0) :
    ∃ parts, parts.negative = negative ∧
      NumberParts.Spells parts (number.positionalText true) number := by
  obtain ⟨places, is⟩ : ∃ places : Nat, number.exponent = -places :=
    ⟨number.exponent.natAbs, by omega⟩
  obtain ⟨whole, behind, split, length, filledWhole, leading⟩ := exists_padded_eq filled places
  have are : AreDigits (whole ++ behind) := split ▸
    (Text.areDigits_replicate_zero _).append (areDigits_digitsOf _)
  obtain ⟨areWhole, areBehind⟩ := List.forall_mem_append.1 are
  refine ⟨⟨negative, whole, some behind, none⟩, rfl, ⟨areWhole, filledWhole, leading, ?_⟩, ?_,
    .inl rfl, ?_⟩
  · rintro _ ⟨⟩
    refine ⟨areBehind, fun none => ?_⟩
    rw [none, List.length_nil] at length
    omega
  · have count : (-number.exponent).toNat = places := by omega
    have front : (padded number.digits places).length - places = whole.length := by
      rw [split, List.length_append, length, Nat.add_sub_cancel]
    rw [DecimalNumber.positionalText, if_neg (by omega), count]
    show whole ++ ('.' :: behind ++ []) =
      (padded number.digits places).take ((padded number.digits places).length - places) ++
        '.' :: (padded number.digits places).drop ((padded number.digits places).length - places)
    rw [front, split, List.take_left, List.drop_left, List.append_nil]
  · have value := decimalValue_padded number.digits places
    rw [split] at value
    simp only [NumberParts.value, DecimalNumber.value, is, Option.getD_some, Option.getD_none,
      value, length, zero_sub]

/-- The zeros at the end that are left out of the digits are in the power of ten. -/
theorem exists_kept_digits (number : DecimalNumber) :
    ∃ first rest, withoutTrailingZeros (digitsOf number.digits) = first :: rest ∧
      AreDigits (first :: rest) ∧
      decimalValue (first :: rest) * (10 : ℚ) ^ (number.leadingExponent - rest.length) =
        number.value := by
  obtain ⟨zeros, split⟩ := exists_replicate_zero (digitsOf_ne_nil number.digits)
  obtain ⟨first, rest, kept⟩ := List.exists_cons_of_ne_nil
    (withoutTrailingZeros_ne_nil (digitsOf number.digits))
  rw [kept] at split
  have are : AreDigits ((first :: rest) ++ List.replicate zeros '0') :=
    split ▸ areDigits_digitsOf number.digits
  have value := decimalValue_digitsOf number.digits
  rw [split, Text.decimalValue_append, Text.decimalValue_replicate_zero,
    List.length_replicate] at value
  have exponent : number.leadingExponent - rest.length = number.exponent + zeros := by
    rw [DecimalNumber.leadingExponent, split, List.length_append, List.length_replicate,
      List.length_cons]
    push_cast
    ring
  refine ⟨first, rest, kept, (List.forall_mem_append.1 are).1, ?_⟩
  rw [exponent, DecimalNumber.value, ← value, zpow_add₀ (by norm_num), zpow_natCast]
  push_cast
  ring

/-- A number with a power of ten. -/
theorem spells_scientific (negative : Bool) (number : DecimalNumber) :
    ∃ parts, parts.negative = negative ∧ NumberParts.Spells parts number.scientificText number := by
  obtain ⟨first, rest, kept, are, value⟩ := exists_kept_digits number
  obtain ⟨areFirst, areRest⟩ := List.forall_mem_cons.1 are
  have one : AreDigits [first] := List.forall_mem_singleton.2 areFirst
  cases rest with
  | nil =>
      refine ⟨⟨negative, [first], none, some number.leadingExponent⟩, rfl,
        ⟨one, List.cons_ne_nil _ _, nofun, nofun⟩, ?_, .inr rfl, value⟩
      rw [DecimalNumber.scientificText, kept]
      rfl
  | cons second rest =>
      refine ⟨⟨negative, [first], some (second :: rest), some number.leadingExponent⟩, rfl,
        ⟨one, List.cons_ne_nil _ _, nofun, ?_⟩, ?_, .inr rfl, value⟩
      · rintro _ ⟨⟩
        exact ⟨areRest, List.cons_ne_nil _ _⟩
      · rw [DecimalNumber.scientificText, kept]
        rfl

/-- What is written for a number of 64 bits has parts that stand for its shortest decimal. -/
theorem spells_double (x : Double) :
    ∃ parts, parts.negative = x.negative ∧
      NumberParts.Spells parts (realLayout.text (x.size.shortest .even))
        (x.size.shortest .even) := by
  obtain ⟨-, zero⟩ := x.contains_shortest .even
  rw [Decimal.Layout.text, realLayout]
  dsimp only
  split
  · by_cases whole : 0 ≤ (x.size.shortest .even).exponent
    · exact ⟨_, rfl, spells_whole x.negative zero whole⟩
    · exact spells_places x.negative (fun none => whole (zero none).ge) (by omega)
  · exact spells_scientific x.negative _

/-! ### Numbers -/

/--
Whether parts are those of a number. An integer has digits only, and the parts of a floating-point
number stand for one of the numbers that round to it.
-/
def NumberParts.Are (parts : NumberParts) : Number → Prop
  | .integer n => parts.fraction = none ∧ parts.exponent = none ∧ parts.negative = decide (n < 0) ∧
      decimalValue parts.whole = n.natAbs
  | .real x => (parts.fraction.isSome = true ∨ parts.exponent.isSome = true) ∧
      parts.negative = x.negative ∧ x.size.interval.Contains parts.value

/-- What is written for a number is read as its parts. -/
theorem exists_parts (number : Number) :
    ∃ parts, numberParts (number.text.toList.map some) = some (parts, []) ∧ parts.Are number := by
  cases number with
  | integer n =>
      have wellFormed : NumberParts.WellFormed ⟨decide (n < 0), digitsOf n.natAbs, none, none⟩ := by
        refine ⟨areDigits_digitsOf _, digitsOf_ne_nil _, fun c rest eq => ?_, nofun⟩
        by_cases zero : n.natAbs = 0
        · rw [zero] at eq
          cases eq
        · exact digitsOf_ne_zero_cons zero _ eq
      refine ⟨⟨decide (n < 0), digitsOf n.natAbs, none, none⟩, ?_, rfl, rfl, rfl,
        decimalValue_digitsOf _⟩
      rw [← wellFormed.numberParts_text, Number.text, integerText, String.toList_ofList,
        NumberParts.text, NumberParts.unsignedText]
      simp [fractionText, exponentText]
  | real x =>
      obtain ⟨parts, negative, spells⟩ := spells_double x
      refine ⟨parts, ?_, spells.marked, negative, ?_⟩
      · rw [← spells.wellFormed.numberParts_text, NumberParts.text, spells.text, negative,
          Number.text, Double.text, Double.floating, Decimal.Floating.text, String.toList_ofList]
        rfl
      · rw [spells.value]
        exact (x.contains_shortest .even).1

/-- Parts are those of one number at most. -/
theorem eq_of_are {parts : NumberParts} {number other : Number} (are : parts.Are number)
    (areToo : parts.Are other) : number = other := by
  cases number with
  | integer n =>
      obtain ⟨places, power, negative, value⟩ := are
      cases other with
      | integer m =>
          obtain ⟨-, -, negativeToo, valueToo⟩ := areToo
          have sign : n < 0 ↔ m < 0 := decide_eq_decide.1 (negative.symm.trans negativeToo)
          have size : n.natAbs = m.natAbs := value.symm.trans valueToo
          exact congrArg Number.integer (by omega)
      | real y =>
          have marked := areToo.1
          rw [places, power] at marked
          simp at marked
  | real x =>
      obtain ⟨marked, negative, inside⟩ := are
      cases other with
      | integer m =>
          rw [areToo.1, areToo.2.1] at marked
          simp at marked
      | real y =>
          exact congrArg Number.real
            (Double.eq_of_contains (negative.symm.trans areToo.2.1) inside areToo.2.2)

end Reader

/-- Different numbers are written in different ways. -/
theorem Number.text_injective : Function.Injective Number.text := by
  intro number other same
  obtain ⟨parts, read, are⟩ := Reader.exists_parts number
  obtain ⟨partsToo, readToo, areToo⟩ := Reader.exists_parts other
  rw [same, readToo, Option.some.injEq, Prod.mk.injEq] at read
  exact Reader.eq_of_are are (read.1 ▸ areToo)

end ItemStore.Json
