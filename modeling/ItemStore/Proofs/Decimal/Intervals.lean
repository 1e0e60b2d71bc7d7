import Mathlib
import ItemStore.Decimal.Double

/-!
# ItemStore.Proofs.Decimal.Intervals

The decimals that are written for floating-point numbers, as rational numbers.

A magnitude owns an interval that ends where the interval of the next one starts (`lower_succ`), and
the point between them belongs to the even one only (`eq_of_contains`). The search finds a decimal
in the interval (`contains_shortest`): the grids that it looks on become finer than the interval
before it gives up. So the decimal singles the magnitude out.
-/

namespace ItemStore.Decimal

/-! ### Powers -/

theorem zpow_mul_pow_toNat {b : ℚ} (ne : b ≠ 0) (n : ℤ) : b ^ n * b ^ (-n).toNat = b ^ n.toNat := by
  rw [← zpow_natCast, ← zpow_natCast, ← zpow_add₀ ne]
  congr 1
  omega

/-- A factor that leaves no negative exponents of two and ten. -/
def clearing (exponent power : ℤ) : ℚ := 2 ^ (-exponent).toNat * 10 ^ (-power).toNat

theorem clearing_pos (exponent power : ℤ) : 0 < clearing exponent power := by
  unfold clearing
  positivity

theorem cast_mul_unit (n : Nat) (exponent power : ℤ) :
    ((n * (twoPow exponent.toNat * tenPow (-power).toNat) : Nat) : ℚ) =
      n * 2 ^ exponent * clearing exponent power := by
  have two := zpow_mul_pow_toNat (b := 2) (by norm_num) exponent
  rw [clearing, mul_assoc, ← mul_assoc (2 ^ exponent), two]
  simp [twoPow, tenPow]

theorem cast_mul_step (n : Nat) (exponent power : ℤ) :
    ((n * (tenPow power.toNat * twoPow (-exponent).toNat) : Nat) : ℚ) =
      n * 10 ^ power * clearing exponent power := by
  have ten := zpow_mul_pow_toNat (b := 10) (by norm_num) power
  rw [clearing, mul_comm (2 ^ _), mul_assoc, ← mul_assoc (10 ^ power), ten]
  simp [twoPow, tenPow]

theorem zpow_lt_zpow_of_mul {a b : ℚ} (hb : 0 < b) (n : ℕ) {k m : ℤ}
    (h : a ^ (n * k) < b ^ (n * m)) : a ^ k < b ^ m := by
  refine lt_of_pow_lt_pow_left₀ n (zpow_pos hb m).le ?_
  rw [← zpow_natCast, ← zpow_natCast, ← zpow_mul, ← zpow_mul, mul_comm k, mul_comm m]
  exact h

theorem zpow_le_zpow_of_nonpos {a b : ℚ} (ha : 0 < a) (le : a ≤ b) {m : ℤ} (nonpos : m ≤ 0) :
    b ^ m ≤ a ^ m := by
  have inverse : (b⁻¹) ^ (-m) ≤ (a⁻¹) ^ (-m) :=
    zpow_le_zpow_left₀ (by omega) (inv_nonneg.2 (ha.le.trans le)) (inv_anti₀ ha le)
  simpa using inverse

/--
Which powers of ten lie below which powers of two, by `10 ^ 3 < 2 ^ 10` for large ones and by
`2 ^ 93 < 10 ^ 28` for small ones.
-/
theorem tenPow_lt_twoPow {k m : ℤ} (large : 0 ≤ m → 10 * k < 3 * m)
    (small : m < 0 → 93 * k < 28 * m) : (10 : ℚ) ^ k < 2 ^ m := by
  rcases lt_or_ge m 0 with neg | nonneg
  · refine zpow_lt_zpow_of_mul (by norm_num) 93 ?_
    calc (10 : ℚ) ^ (93 * k) < 10 ^ (28 * m) := zpow_lt_zpow_right₀ (by norm_num) (small neg)
      _ = (10 ^ 28) ^ m := zpow_mul 10 28 m
      _ ≤ (2 ^ 93) ^ m := zpow_le_zpow_of_nonpos (by norm_num) (by norm_num) neg.le
      _ = 2 ^ (93 * m) := (zpow_mul 2 93 m).symm
  · rcases lt_or_ge k 0 with below | above
    · calc (10 : ℚ) ^ k < 1 := zpow_lt_one_of_neg₀ (by norm_num) below
        _ ≤ 2 ^ m := one_le_zpow₀ (by norm_num) nonneg
    · refine zpow_lt_zpow_of_mul (by norm_num) 3 ?_
      calc (10 : ℚ) ^ (3 * k) = (10 ^ 3) ^ k := zpow_mul 10 3 k
        _ ≤ (2 ^ 10) ^ k := zpow_le_zpow_left₀ above (by norm_num) (by norm_num)
        _ = 2 ^ (10 * k) := (zpow_mul 2 10 k).symm
        _ < 2 ^ (3 * m) := zpow_lt_zpow_right₀ (by norm_num) (large nonneg)

/-! ### Intervals -/

/-- The number that a decimal stands for. -/
def DecimalNumber.value (number : DecimalNumber) : ℚ := number.digits * 10 ^ number.exponent

namespace RoundingInterval

variable {interval : RoundingInterval} {tie : Tie}

/-- The lower end, as a number. -/
def lower (interval : RoundingInterval) : ℚ := interval.low * 2 ^ interval.exponent

/-- The upper end, as a number. -/
def upper (interval : RoundingInterval) : ℚ := interval.high * 2 ^ interval.exponent

/-- Whether a number lies between the ends, or is one of them if they belong to the interval. -/
def Contains (interval : RoundingInterval) (x : ℚ) : Prop :=
  if interval.closed then interval.lower ≤ x ∧ x ≤ interval.upper
  else interval.lower < x ∧ x < interval.upper

theorem Contains.le {x : ℚ} (h : interval.Contains x) :
    interval.lower ≤ x ∧ x ≤ interval.upper := by
  unfold Contains at h
  split at h
  · exact h
  · exact ⟨h.1.le, h.2.le⟩

theorem Contains.lt {x : ℚ} (h : interval.Contains x) (ends : interval.closed = false) :
    interval.lower < x ∧ x < interval.upper := by
  rwa [Contains, ends, if_neg Bool.false_ne_true] at h

/-- What is strictly inside belongs to the interval in any case. -/
theorem contains_of_lt {x : ℚ} (low : interval.lower < x) (high : x < interval.upper) :
    interval.Contains x := by
  unfold Contains
  split
  · exact ⟨low.le, high.le⟩
  · exact ⟨low, high⟩

theorem holds_iff {digits : Nat} {power : Int} :
    interval.holds digits power = true ↔ interval.Contains (digits * 10 ^ power) := by
  have pos := clearing_pos interval.exponent power
  unfold holds Contains lower upper
  rw [Nat.mul_assoc digits]
  split
  · rw [Bool.and_eq_true, decide_eq_true_eq, decide_eq_true_eq, ← Nat.cast_le (α := ℚ),
      ← Nat.cast_le (α := ℚ), cast_mul_step, cast_mul_unit, cast_mul_unit,
      mul_le_mul_iff_left₀ pos, mul_le_mul_iff_left₀ pos]
  · rw [Bool.and_eq_true, decide_eq_true_eq, decide_eq_true_eq, ← Nat.cast_lt (α := ℚ),
      ← Nat.cast_lt (α := ℚ), cast_mul_step, cast_mul_unit, cast_mul_unit,
      mul_lt_mul_iff_left₀ pos, mul_lt_mul_iff_left₀ pos]

/-- What is found on a grid lies in the interval, and is not zero. -/
theorem of_onGrid? {power : Int} {digits : Nat} (h : interval.onGrid? tie power = some digits) :
    0 < digits ∧ interval.holds digits power = true := by
  unfold onGrid? at h
  dsimp only at h
  split at h
  · rename_i both
    obtain ⟨below, above⟩ := Bool.and_eq_true_iff.1 both
    obtain ⟨pos, inside⟩ := Bool.and_eq_true_iff.1 below
    obtain rfl := Option.some.inj h
    split
    · exact ⟨of_decide_eq_true pos, inside⟩
    · exact ⟨Nat.succ_pos _, above⟩
  · split at h
    · rename_i below
      obtain ⟨pos, inside⟩ := Bool.and_eq_true_iff.1 below
      obtain rfl := Option.some.inj h
      exact ⟨of_decide_eq_true pos, inside⟩
    · split at h
      · rename_i above
        obtain rfl := Option.some.inj h
        exact ⟨Nat.succ_pos _, above⟩
      · cases h

/-- How many steps of a grid fit below the value of an interval. -/
def below (interval : RoundingInterval) (power : Int) : Nat :=
  interval.value * twoPow interval.exponent.toNat * tenPow (-power).toNat /
    (tenPow power.toNat * twoPow (-interval.exponent).toNat)

theorem below_le (interval : RoundingInterval) (power : Int) :
    interval.below power * (10 : ℚ) ^ power ≤ interval.value * 2 ^ interval.exponent ∧
      interval.value * (2 : ℚ) ^ interval.exponent < (interval.below power + 1) * 10 ^ power := by
  have pos := clearing_pos interval.exponent power
  have step : 0 < tenPow power.toNat * twoPow (-interval.exponent).toNat :=
    Nat.mul_pos (Nat.pow_pos (by decide)) (Nat.pow_pos (by decide))
  have least : interval.below power * (tenPow power.toNat * twoPow (-interval.exponent).toNat) ≤
      interval.value * (twoPow interval.exponent.toNat * tenPow (-power).toNat) := by
    rw [below, Nat.mul_assoc interval.value]
    exact Nat.div_mul_le_self _ _
  have next : interval.value * (twoPow interval.exponent.toNat * tenPow (-power).toNat) <
      (interval.below power + 1) * (tenPow power.toNat * twoPow (-interval.exponent).toNat) := by
    rw [below, Nat.mul_assoc interval.value]
    exact Nat.lt_mul_of_div_lt (Nat.lt_succ_self _) step
  rw [← Nat.cast_le (α := ℚ), cast_mul_step, cast_mul_unit, mul_le_mul_iff_left₀ pos] at least
  rw [← Nat.cast_lt (α := ℚ), cast_mul_step, cast_mul_unit, mul_lt_mul_iff_left₀ pos,
    Nat.cast_succ] at next
  exact ⟨least, next⟩

/-- A grid that is finer than the part of the interval above its value has a multiple inside. -/
theorem isSome_onGrid? {power : Int} (low : interval.low ≤ interval.value)
    (fine : interval.value * 2 ^ interval.exponent + 10 ^ power < interval.upper) :
    (interval.onGrid? tie power).isSome = true := by
  obtain ⟨least, next⟩ := interval.below_le power
  have above : interval.holds (interval.below power + 1) power = true := by
    refine holds_iff.2 (contains_of_lt ?_ ?_)
    · refine lt_of_le_of_lt ?_ (next.trans_eq (by push_cast; rfl))
      rw [lower]
      gcongr
    · push_cast
      linarith
  unfold below at above
  unfold onGrid?
  dsimp only
  rw [above]
  split
  · rfl
  · split <;> simp

/-- A search that comes to a grid with a multiple in the interval finds one, there or before. -/
theorem contains_search {grids : Nat} {power : Int}
    (last : (interval.onGrid? tie (power - grids)).isSome = true) :
    0 < (interval.search tie (grids + 1) power).digits ∧
      interval.Contains (interval.search tie (grids + 1) power).value := by
  induction grids generalizing power with
  | zero =>
      obtain ⟨digits, found⟩ := Option.isSome_iff_exists.1 last
      rw [Nat.cast_zero, sub_zero] at found
      rw [search, found]
      exact (of_onGrid? found).imp id holds_iff.1
  | succ grids ih =>
      rw [search]
      split
      · rename_i digits found
        exact (of_onGrid? found).imp id holds_iff.1
      · refine ih ?_
        rwa [show power - 1 - (grids : Int) = power - (grids + 1 : Nat) by push_cast; ring]

end RoundingInterval

/-! ### Magnitudes -/

namespace Magnitude

variable {size next : Magnitude}

theorem lower_lt_upper (size : Magnitude) :
    size.interval.lower < size.interval.upper := by
  have less : size.interval.low < size.interval.high := by
    simp only [interval]
    omega
  unfold RoundingInterval.lower RoundingInterval.upper
  gcongr

/-- The next magnitude with the same unit lies two quarters of it above the upper end. -/
theorem lower_eq_upper (exponent : next.exponent = size.exponent)
    (mantissa : next.mantissa = size.mantissa + 1) (closer : next.closerBelow = false) :
    next.interval.lower = size.interval.upper := by
  have ends : 4 * (size.mantissa + 1) - 2 = 4 * size.mantissa + 2 := by omega
  rw [interval, interval, RoundingInterval.lower, RoundingInterval.upper, closer,
    if_neg Bool.false_ne_true, exponent, mantissa, ends]

/-- The next magnitude with twice the unit lies one quarter of it above the upper end. -/
theorem lower_eq_upper_of_double (exponent : next.exponent = size.exponent + 1)
    (mantissa : 2 * next.mantissa = size.mantissa + 1) (closer : next.closerBelow = true) :
    next.interval.lower = size.interval.upper := by
  have ends : 2 * (4 * next.mantissa - 1) = 4 * size.mantissa + 2 := by omega
  have unit : size.exponent + 1 - 2 = size.exponent - 2 + 1 := by ring
  rw [interval, interval, RoundingInterval.lower, RoundingInterval.upper, closer, if_pos rfl,
    exponent, ← ends, unit, zpow_add_one₀ (by norm_num)]
  push_cast
  ring

/--
The search for the shortest decimal of a magnitude comes to an end, whatever the magnitudes of 64
bits are: the last grid is finer than the interval. Zero is no multiple that the search finds, but
written at once.
-/
theorem contains_shortest (mantissa : size.mantissa < 2 ^ 53)
    (least : -1074 ≤ size.exponent) (greatest : size.exponent ≤ 971) (tie : Tie) :
    size.interval.Contains (size.shortest tie).value ∧
      ((size.shortest tie).digits = 0 → (size.shortest tie).exponent = 0) := by
  by_cases zero : size.mantissa = 0
  · rw [shortest, if_pos zero]
    refine ⟨?_, fun _ => rfl⟩
    have pos : (0 : ℚ) ≤ 2 ^ (size.exponent - 2) := by positivity
    simp [RoundingInterval.Contains, RoundingInterval.lower, RoundingInterval.upper, interval, zero,
      DecimalNumber.value, pos]
  · rw [shortest, if_neg zero]
    have digits : (4 * size.mantissa).log2 < 55 := (Nat.log2_lt (by omega)).2 (by omega)
    have fine : (10 : ℚ) ^ (size.interval.ceilingPower - (24 : Nat)) <
        2 ^ (size.exponent - 2 + 1) := by
      refine tenPow_lt_twoPow ?_ ?_ <;> intro sign <;>
        simp only [RoundingInterval.ceilingPower, interval] <;> omega
    have upper : size.interval.upper =
        size.interval.value * 2 ^ size.interval.exponent + 2 ^ (size.exponent - 2 + 1) := by
      rw [zpow_add_one₀ (by norm_num)]
      simp only [RoundingInterval.upper, interval]
      push_cast
      ring
    have last : (size.interval.onGrid? tie
        (size.interval.ceilingPower - (24 : Nat))).isSome = true :=
      RoundingInterval.isSome_onGrid? (Nat.sub_le _ _) (by rw [upper]; gcongr)
    obtain ⟨pos, inside⟩ := RoundingInterval.contains_search last
    exact ⟨inside, fun none => absurd none (Nat.ne_of_gt pos)⟩

end Magnitude

namespace BinaryFormat

variable {format : BinaryFormat}

/-- The magnitude whose fields are known. -/
theorem magnitude_eq (field : Nat) {fraction : Nat} (h : fraction < twoPow format.fractionBits) :
    format.magnitude (field * twoPow format.fractionBits + fraction) =
      if field = 0 then ⟨fraction, format.leastExponent, false⟩
      else ⟨twoPow format.fractionBits + fraction, format.leastExponent + field - 1,
        fraction = 0 && 1 < field⟩ := by
  obtain ⟨quotient, remainder⟩ :=
    (Nat.div_mod_unique (d := field) (c := fraction) (Nat.zero_lt_of_lt h)).2
      ⟨show _ = field * twoPow format.fractionBits + fraction by ring, h⟩
  rw [magnitude, quotient, remainder]

/-- The interval of a magnitude starts where that of the one before ends. -/
theorem lower_succ (format : BinaryFormat) (pattern : Nat) :
    (format.magnitude (pattern + 1)).interval.lower =
      (format.magnitude pattern).interval.upper := by
  have pos : 0 < twoPow format.fractionBits := Nat.pow_pos (by decide)
  obtain ⟨field, fraction, small, rfl⟩ : ∃ field fraction, fraction < twoPow format.fractionBits ∧
      pattern = field * twoPow format.fractionBits + fraction :=
    ⟨_, _, Nat.mod_lt pattern pos, (Nat.div_add_mod' pattern _).symm⟩
  rw [magnitude_eq field small]
  by_cases carry : fraction + 1 < twoPow format.fractionBits
  · -- Both have the same field.
    rw [Nat.add_assoc, magnitude_eq field carry]
    split
    · exact Magnitude.lower_eq_upper rfl rfl rfl
    · exact Magnitude.lower_eq_upper rfl rfl rfl
  · -- The fraction of the next one is zero, and its field is greater by one.
    have full : twoPow format.fractionBits = fraction + 1 := by omega
    have next : field * twoPow format.fractionBits + fraction + 1 =
        (field + 1) * twoPow format.fractionBits + 0 := by
      rw [Nat.add_mul]
      omega
    rw [next, magnitude_eq (field + 1) pos, if_neg (Nat.succ_ne_zero _)]
    split
    · rename_i zero
      refine Magnitude.lower_eq_upper ?_ full ?_
      · simp [zero]
      · simp [zero]
    · rename_i normal
      refine Magnitude.lower_eq_upper_of_double ?_ ?_ ?_
      · push_cast
        ring
      · dsimp only
        omega
      · simpa using Nat.pos_of_ne_zero normal

/-- Between the intervals of two magnitudes that are not neighbours there is another one. -/
theorem upper_lt_lower {pattern other : Nat} (apart : pattern + 2 ≤ other) :
    (format.magnitude pattern).interval.upper < (format.magnitude other).interval.lower := by
  induction other, apart using Nat.le_induction with
  | base =>
      rw [← lower_succ, lower_succ format (pattern + 1)]
      exact Magnitude.lower_lt_upper _
  | succ other _ ih =>
      rw [lower_succ]
      exact ih.trans (Magnitude.lower_lt_upper _)

/-- The ends belong to the intervals of even patterns. -/
theorem closed_magnitude (even : twoPow format.fractionBits % 2 = 0) (pattern : Nat) :
    (format.magnitude pattern).interval.closed = (pattern % 2 == 0) := by
  have parity : (format.magnitude pattern).mantissa % 2 = pattern % 2 := by
    have fraction : pattern % twoPow format.fractionBits % 2 = pattern % 2 :=
      Nat.mod_mod_of_dvd pattern (Nat.dvd_of_mod_eq_zero even)
    unfold magnitude
    dsimp only
    split
    · exact fraction
    · rw [Nat.add_mod, even, Nat.zero_add, Nat.mod_mod, fraction]
  rw [Magnitude.interval, parity]

theorem not_contains_of_lt (even : twoPow format.fractionBits % 2 = 0) {pattern other : Nat} {x : ℚ}
    (less : pattern < other) (inside : (format.magnitude pattern).interval.Contains x) :
    ¬(format.magnitude other).interval.Contains x := by
  intro insideToo
  rcases Nat.lt_or_ge (pattern + 1) other with apart | next
  · exact absurd (insideToo.le.1.trans inside.le.2) (upper_lt_lower apart).not_ge
  · -- Neighbours have a point in common, which belongs to the even one only.
    obtain rfl : other = pattern + 1 := by omega
    have touch := lower_succ format pattern
    rcases Nat.mod_two_eq_zero_or_one pattern with parity | parity
    · have ends : (format.magnitude (pattern + 1)).interval.closed = false := by
        rw [closed_magnitude even, beq_eq_false_iff_ne]
        omega
      linarith [inside.le.2, (insideToo.lt ends).1]
    · have ends : (format.magnitude pattern).interval.closed = false := by
        rw [closed_magnitude even, beq_eq_false_iff_ne]
        omega
      linarith [(inside.lt ends).2, insideToo.le.1]

/-- A number lies in the interval of one magnitude at most. -/
theorem eq_of_contains (even : twoPow format.fractionBits % 2 = 0) {pattern other : Nat} {x : ℚ}
    (inside : (format.magnitude pattern).interval.Contains x)
    (insideToo : (format.magnitude other).interval.Contains x) : pattern = other := by
  rcases Nat.lt_trichotomy pattern other with less | same | greater
  · exact absurd insideToo (not_contains_of_lt even less inside)
  · exact same
  · exact absurd inside (not_contains_of_lt even greater insideToo)

end BinaryFormat

namespace Double

theorem contains_shortest (x : Double) (tie : Tie) :
    x.size.interval.Contains (x.size.shortest tie).value ∧
      ((x.size.shortest tie).digits = 0 → (x.size.shortest tie).exponent = 0) := by
  have finite : x.pattern < 2047 * 2 ^ 52 := x.finite
  have width : twoPow BinaryFormat.double.fractionBits = 2 ^ 52 := rfl
  have least : BinaryFormat.double.leastExponent = -1074 := by decide
  refine Magnitude.contains_shortest ?_ ?_ ?_ tie <;>
    simp only [size, BinaryFormat.magnitude, width, least] <;> split <;> dsimp only <;> omega

/-- Numbers with the same sign whose intervals have a number in common are the same. -/
theorem eq_of_contains {x y : Double} {value : ℚ} (sign : x.negative = y.negative)
    (inside : x.size.interval.Contains value) (insideToo : y.size.interval.Contains value) :
    x = y := by
  have pattern : x.pattern = y.pattern :=
    BinaryFormat.eq_of_contains (by decide) inside insideToo
  obtain ⟨negative, p, finite⟩ := x
  obtain ⟨_, _, _⟩ := y
  subst sign pattern
  rfl

end Double

end ItemStore.Decimal
