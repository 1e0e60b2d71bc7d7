import Mathlib
import ItemStore.Proofs.Expression.Registry

/-!
# ItemStore.Proofs.Expression.Search

The search for a free body, turn by turn and with a counter of 32 bits.

`firstFree` is given as many steps as it can need, and counts in numbers without end. A `Search` has
no steps that run out: it goes on as long as it finds its candidate taken, so it might go on forever
or come to a number that its counter cannot hold.

Behind `n` increments it looks at the `n`-th candidate, and all those before are taken
(`reaches_iff`). Candidates differ, so no more of them are passed than bodies are taken, and the
counter overflows only if the candidates with all its numbers are taken (`overflows_iff`). With
fewer bodies every search ends, at the candidate that `firstFree` finds (`search_ends`).
-/

namespace ItemStore.Expression

/-! ### Turns -/

/-- A search for a free body that is under way. -/
structure Search where
  /-- The number behind the candidate; zero stands for the plain one. -/
  counter : UInt32
  /-- The candidate that is looked at next. -/
  body : String
deriving DecidableEq, Repr

namespace Search

/-- What a look at a candidate leads to. -/
inductive Turn
  /-- The candidate is free, and the search ends. -/
  | stop
  /-- The candidate is taken, and the search goes on with the next one. -/
  | next (search : Search)
  /-- The candidate is taken, and the counter cannot hold the number of the next one. -/
  | overflow
deriving DecidableEq, Repr

/-- The search at its beginning, where it looks at the plain candidate. -/
def start (plain : String) : Search := ⟨0, plain⟩

/-- Looks at the candidate. Where it is taken the counter goes up, and numbers the next one. -/
def turn (taken : NameSet) (plain : String) (search : Search) : Turn :=
  if taken.contains search.body then
    if search.counter.toNat + 1 < UInt32.size then
      .next ⟨search.counter + 1, plain ++ "_" ++ toString (search.counter + 1)⟩
    else .overflow
  else .stop

/-- What a search comes to, and after how many increments of its counter. -/
inductive Reaches (taken : NameSet) (plain : String) : (increments : Nat) → Search → Prop
  | start : Reaches taken plain 0 (start plain)
  | next {n : Nat} {search next : Search} : Reaches taken plain n search →
      search.turn taken plain = .next next → Reaches taken plain (n + 1) next

/-- The search that looks at the `n`-th candidate. -/
def nth (plain : String) (n : Nat) : Search := ⟨.ofNat n, candidate plain n⟩

variable {taken : NameSet} {plain : String} {n : Nat} {search : Search}

theorem toNat_counter_nth (plain : String) (fits : n < UInt32.size) :
    (nth plain n).counter.toNat = n :=
  UInt32.toNat_ofNat_of_lt' fits

/-- A turn leads from one candidate to the next, in order. -/
theorem turn_nth (taken : NameSet) (plain : String) (fits : n < UInt32.size) :
    (nth plain n).turn taken plain =
      if taken.contains (candidate plain n) then
        if n + 1 < UInt32.size then .next (nth plain (n + 1)) else .overflow
      else .stop := by
  rw [turn, toNat_counter_nth plain fits]
  have counted : (nth plain n).counter + 1 = .ofNat (n + 1) := (UInt32.ofNat_add n 1).symm
  by_cases more : n + 1 < UInt32.size
  · have text : toString (UInt32.ofNat (n + 1)) = toString (n + 1) :=
      congrArg toString (UInt32.toNat_ofNat_of_lt' more)
    rw [counted, text]
    rfl
  · rw [if_neg more, if_neg more]
    rfl

theorem turn_nth_eq_next_iff (fits : n < UInt32.size) {next : Search} :
    (nth plain n).turn taken plain = .next next ↔
      taken.contains (candidate plain n) = true ∧ n + 1 < UInt32.size ∧
        next = nth plain (n + 1) := by
  rw [turn_nth taken plain fits]
  split_ifs with isTaken more
  · rw [Turn.next.injEq, eq_comm]
    exact ⟨fun is => ⟨isTaken, more, is⟩, fun h => h.2.2⟩
  · exact ⟨nofun, fun h => absurd h.2.1 more⟩
  · exact ⟨nofun, fun h => absurd h.1 isTaken⟩

theorem turn_nth_eq_overflow_iff (fits : n < UInt32.size) :
    (nth plain n).turn taken plain = .overflow ↔
      taken.contains (candidate plain n) = true ∧ n + 1 = UInt32.size := by
  rw [turn_nth taken plain fits]
  split_ifs with isTaken more
  · exact ⟨nofun, fun h => absurd h.2 (Nat.ne_of_lt more)⟩
  · exact ⟨fun _ => ⟨isTaken, by omega⟩, fun _ => rfl⟩
  · exact ⟨nofun, fun h => absurd h.1 isTaken⟩

theorem turn_nth_eq_stop_iff (fits : n < UInt32.size) :
    (nth plain n).turn taken plain = .stop ↔ taken.contains (candidate plain n) = false := by
  rw [turn_nth taken plain fits]
  split_ifs with isTaken more
  · simp [isTaken]
  · simp [isTaken]
  · simpa using isTaken

/-! ### Runs -/

/-- Behind `n` increments a search looks at the `n`-th candidate, and all before it are taken. -/
theorem reaches_iff : Reaches taken plain n search ↔
    n < UInt32.size ∧ (∀ i < n, taken.contains (candidate plain i) = true) ∧
      search = nth plain n := by
  constructor
  · intro reached
    induction reached with
    | start => exact ⟨by decide, fun i lt => absurd lt (Nat.not_lt_zero i), rfl⟩
    | next _ goesOn ih =>
        obtain ⟨fits, passed, rfl⟩ := ih
        obtain ⟨isTaken, more, rfl⟩ := (turn_nth_eq_next_iff fits).1 goesOn
        exact ⟨more, Nat.forall_lt_succ_right.2 ⟨passed, isTaken⟩, rfl⟩
  · intro ⟨fits, passed, is⟩
    subst is
    induction n with
    | zero => exact .start
    | succ n ih =>
        obtain ⟨before, isTaken⟩ := Nat.forall_lt_succ_right.1 passed
        have fitsBefore : n < UInt32.size := Nat.lt_of_succ_lt fits
        have reached := ih fitsBefore before
        exact .next reached ((turn_nth_eq_next_iff fitsBefore).2 ⟨isTaken, fits, rfl⟩)

/-- The counter overflows exactly if the candidates with all its numbers are taken. -/
theorem overflows_iff :
    (∃ n search, Reaches taken plain n search ∧ search.turn taken plain = .overflow) ↔
      ∀ i < UInt32.size, taken.contains (candidate plain i) = true := by
  constructor
  · intro ⟨n, search, reached, overflow⟩
    obtain ⟨fits, passed, rfl⟩ := reaches_iff.1 reached
    obtain ⟨isTaken, top⟩ := (turn_nth_eq_overflow_iff fits).1 overflow
    rw [← top]
    exact Nat.forall_lt_succ_right.2 ⟨passed, isTaken⟩
  · intro all
    obtain ⟨n, top⟩ : ∃ n, n + 1 = UInt32.size := ⟨UInt32.size - 1, by decide⟩
    have fits : n < UInt32.size := by omega
    rw [← top] at all
    obtain ⟨passed, isTaken⟩ := Nat.forall_lt_succ_right.1 all
    exact ⟨n, nth plain n, reaches_iff.2 ⟨fits, passed, rfl⟩,
      (turn_nth_eq_overflow_iff fits).2 ⟨isTaken, top⟩⟩

/-- Behind a free candidate no other one is looked at. -/
theorem Reaches.le_of_free (reached : Reaches taken plain n search) {k : Nat}
    (free : taken.contains (candidate plain k) = false) : n ≤ k := by
  by_contra beyond
  rw [(reaches_iff.1 reached).2.1 k (by omega)] at free
  cases free

end Search

/-! ### Bodies -/

namespace Placeholders

open Search (Reaches)

variable {registry : Placeholders} {name : String}

/--
Whether the search for the body of a name ends behind `n` increments, with the first free candidate.
-/
structure EndsAfter (registry : Placeholders) (name : String) (n : Nat) : Prop where
  /-- Behind `n` increments the search looks at the `n`-th candidate and stops. -/
  stops : ∃ search, Reaches registry.taken (plainBody name) n search ∧
    search.turn registry.taken (plainBody name) = .stop ∧
      search.body = candidate (plainBody name) n
  /-- It makes no further increment. -/
  last : ∀ m search, Reaches registry.taken (plainBody name) m search → m ≤ n
  /-- The counter holds the number of increments all the time, and never overflows. -/
  counts : ∀ m search, Reaches registry.taken (plainBody name) m search →
    search.counter.toNat = m ∧ search.turn registry.taken (plainBody name) ≠ .overflow
  /-- The candidate it stops at is free. -/
  free : registry.taken.contains (candidate (plainBody name) n) = false
  /-- The candidates in front of that are taken. -/
  taken : ∀ i < n, registry.taken.contains (candidate (plainBody name) i) = true
  /-- The name gets this candidate, which is taken from now on. -/
  gets : registry.body name = (candidate (plainBody name) n,
    ⟨registry.bodies.insert name (candidate (plainBody name) n),
      registry.taken.add (candidate (plainBody name) n)⟩)

/--
Where fewer bodies are taken than a counter of 32 bits has numbers, the search for the body of a new
name ends. It makes at most one increment for each taken body, none of which overflows the counter,
and the name gets the first of its candidates that is free.
-/
theorem search_ends (new : registry.bodies.find? name = none)
    (few : registry.taken.size < 2 ^ 32) :
    ∃ n ≤ registry.taken.size, registry.EndsAfter name n := by
  obtain ⟨n, free, passed, gets⟩ := body_of_find?_none new
  have le : n ≤ registry.taken.size := le_size_of_contains passed
  have fits : n < UInt32.size := Nat.lt_of_le_of_lt le few
  refine ⟨n, le, ?_, fun m search reached => reached.le_of_free free, ?_, free, passed, gets⟩
  · exact ⟨.nth (plainBody name) n, Search.reaches_iff.2 ⟨fits, passed, rfl⟩,
      (Search.turn_nth_eq_stop_iff fits).2 free, rfl⟩
  · intro m search reached
    refine ⟨?_, fun overflow => ?_⟩
    · obtain ⟨fits, -, rfl⟩ := Search.reaches_iff.1 reached
      exact Search.toNat_counter_nth _ fits
    · have all := Search.overflows_iff.1 ⟨m, search, reached, overflow⟩
      exact absurd (le_size_of_contains all) (Nat.not_le_of_lt few)

/-- A registry in which the first two candidates for the body of `a_b` are taken. -/
def crowded : Placeholders := ((reserve ∅ "a_b_1").body "a-b").2

theorem search_ends_of_crowded :
    crowded.bodies.find? "a_b" = none ∧ crowded.taken.size < 2 ^ 32 ∧
      (∃ n ≤ crowded.taken.size, crowded.EndsAfter "a_b" n) ∧
      (crowded.body "a_b").1 = "a_b_2" := by
  have new : crowded.bodies.find? "a_b" = none := by decide
  have few : crowded.taken.size < 2 ^ 32 := by decide
  exact ⟨new, few, search_ends new few, by decide⟩

end Placeholders

end ItemStore.Expression
