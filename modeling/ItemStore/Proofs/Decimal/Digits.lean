import Mathlib
import ItemStore.Decimal.Layout
import ItemStore.Text.Ascii

/-!
# ItemStore.Proofs.Decimal.Digits

Numbers as decimal digits: what digits spell, and that numbers have no zeros in front.
-/

namespace ItemStore

namespace Text

theorem isDigit_of_isDigit {c : Char} (h : c.isDigit = true) : isDigit c = true := by
  simpa [isDigit, Char.isDigit, Char.le_def] using h

/-- The digits by their codes. -/
theorem isDigit_iff {c : Char} : isDigit c = true ↔ 48 ≤ c.toNat ∧ c.toNat ≤ 57 := by
  rw [isDigit, Bool.and_eq_true, decide_eq_true_eq, decide_eq_true_eq]
  rfl

/-- Whether all characters are digits. -/
def AreDigits (chars : List Char) : Prop := ∀ c ∈ chars, isDigit c = true

theorem AreDigits.append {chars more : List Char} (h : AreDigits chars) (hs : AreDigits more) :
    AreDigits (chars ++ more) :=
  List.forall_mem_append.2 ⟨h, hs⟩

theorem areDigits_replicate_zero (n : Nat) : AreDigits (List.replicate n '0') := by
  intro c mem
  rw [List.eq_of_mem_replicate mem]
  rfl

theorem foldl_digitValue (digits : List Char) (n : Nat) :
    digits.foldl (fun n c => 10 * n + digitValue c) n =
      n * 10 ^ digits.length + decimalValue digits := by
  unfold decimalValue
  induction digits generalizing n with
  | nil => simp
  | cons c rest ih =>
      rw [List.foldl_cons, List.foldl_cons, ih, ih (10 * 0 + _), List.length_cons]
      ring

theorem decimalValue_append (digits more : List Char) :
    decimalValue (digits ++ more) = decimalValue digits * 10 ^ more.length + decimalValue more := by
  rw [decimalValue, List.foldl_append, foldl_digitValue, ← decimalValue]

theorem decimalValue_replicate_zero (n : Nat) : decimalValue (List.replicate n '0') = 0 := by
  induction n with
  | zero => rfl
  | succ n ih =>
      rw [List.replicate_succ', decimalValue_append, ih]
      rfl

end Text

namespace Decimal

open Text (AreDigits decimalValue isDigit)

theorem areDigits_digitsOf (n : Nat) : AreDigits (digitsOf n) := fun _ mem =>
  Text.isDigit_of_isDigit (Nat.isDigit_of_mem_toDigits (by decide) (by decide) mem)

theorem digitsOf_ne_nil (n : Nat) : digitsOf n ≠ [] := Nat.toDigits_ne_nil

/-- A number of several digits is that of the digits in front of the last one, and the last one. -/
theorem digitsOf_eq (n : Nat) :
    digitsOf n = if n < 10 then [Nat.digitChar n]
      else digitsOf (n / 10) ++ [Nat.digitChar (n % 10)] :=
  Nat.toDigits_eq_if (by decide)

theorem decimalValue_digitChar {n : Nat} (small : n < 10) : decimalValue [Nat.digitChar n] = n := by
  interval_cases n <;> decide

theorem decimalValue_digitsOf (n : Nat) : decimalValue (digitsOf n) = n := by
  induction n using Nat.strong_induction_on with
  | _ n ih =>
      rw [digitsOf_eq]
      split
      · rename_i small
        exact decimalValue_digitChar small
      · rename_i large
        rw [Text.decimalValue_append, ih _ (by omega), decimalValue_digitChar (by omega)]
        simp only [List.length_singleton]
        omega

/-- Only zero starts with a zero. -/
theorem digitsOf_ne_zero_cons {n : Nat} (ne : n ≠ 0) (rest : List Char) :
    digitsOf n ≠ '0' :: rest := by
  induction n using Nat.strong_induction_on generalizing rest with
  | _ n ih =>
      rw [digitsOf_eq]
      split
      · rename_i small
        intro eq
        have zero : decimalValue [Nat.digitChar n] = decimalValue ['0'] := by
          rw [(List.cons.inj eq).1]
        rw [decimalValue_digitChar small] at zero
        exact ne zero
      · rename_i large
        obtain ⟨c, more, is⟩ := List.exists_cons_of_ne_nil (digitsOf_ne_nil (n / 10))
        rw [is, List.cons_append]
        intro eq
        exact ih (n / 10) (by omega) (by omega) more (is.trans (by rw [(List.cons.inj eq).1]))

theorem digitsOf_append_ne_zero_cons {n : Nat} (ne : n ≠ 0) (more rest : List Char) :
    digitsOf n ++ more ≠ '0' :: rest := by
  obtain ⟨c, others, is⟩ := List.exists_cons_of_ne_nil (digitsOf_ne_nil n)
  rw [is, List.cons_append]
  intro eq
  exact digitsOf_ne_zero_cons ne others (is.trans (by rw [(List.cons.inj eq).1]))

/-- Digits are the zeros at their end, and what is left without them. -/
theorem exists_replicate_zero {digits : List Char} (filled : digits ≠ []) :
    ∃ zeros, digits = withoutTrailingZeros digits ++ List.replicate zeros '0' := by
  have cut : digits = (digits.reverse.dropWhile (· == '0')).reverse ++
      (digits.reverse.takeWhile (· == '0')).reverse := by
    rw [← List.reverse_append, List.takeWhile_append_dropWhile, List.reverse_reverse]
  have zeros : (digits.reverse.takeWhile (· == '0')).reverse =
      List.replicate (digits.reverse.takeWhile (· == '0')).length '0' := by
    rw [List.eq_replicate_iff, List.length_reverse]
    refine ⟨rfl, fun c mem => ?_⟩
    have zero := List.mem_takeWhile_imp (p := (· == '0')) (List.mem_reverse.1 mem)
    exact eq_of_beq zero
  rw [zeros] at cut
  generalize (digits.reverse.takeWhile (· == '0')).length = count at cut
  unfold withoutTrailingZeros
  split
  · rename_i none
    rw [none, List.nil_append] at cut
    cases count with
    | zero => exact absurd cut filled
    | succ more => exact ⟨more, cut⟩
  · exact ⟨_, cut⟩

theorem withoutTrailingZeros_ne_nil (digits : List Char) : withoutTrailingZeros digits ≠ [] := by
  unfold withoutTrailingZeros
  split
  · exact List.cons_ne_nil _ _
  · rename_i ne
    exact ne

end Decimal

end ItemStore
