import Mathlib
import ItemStore.Proofs.Expression.Reading
import ItemStore.Proofs.Update.Effects

/-!
# ItemStore.Proofs.Update.Conditions

The condition of an update: what the calls of a run join to it, and how a store reads the result.

Expressions are joined as texts and nothing is put in parentheses. So the check of a lock binds to
the last alternative that has been joined before it, and to no other one (`alternatives_append`). It
is enforced just if the other alternatives demand it themselves.
-/

namespace ItemStore.Update

open Expression (Connective Enforces Form alternatives alternativesFrom_append
  alternativesFrom_of_ands enforces_iff isOperand joinAll lexemes reading_joinAll)

variable {update changed : Update} {world : World}

/-! ### What a run joins -/

/-- The check of a lock. -/
def lockCheck : String := "#rev = :rev"

/-- What an effect joins to the condition. -/
def Effect.joins (update : Update) : Effect → List (Connective × String)
  | .join expression connective => [(connective, expression)]
  | .lock _ => if update.locked then [] else [(.and, lockCheck)]
  | _ => []

/-- What a run joins to the condition, in order. -/
def joins : Update → List (World × Call) → List (Connective × String)
  | _, [] => []
  | update, call :: rest =>
      call.2.effect.joins update ++ (update.step call.1 call.2).2.joins rest

theorem joins_append (update : Update) (calls others : List (World × Call)) :
    update.joins (calls ++ others) =
      update.joins calls ++ (update.run calls).2.joins others := by
  induction calls generalizing update with
  | nil => rfl
  | cons call rest ih => rw [List.cons_append, joins, joins, ih, List.append_assoc]; rfl

theorem Does.condition_eq {effect : Effect} (does : update.Does world effect changed)
    (regular : update.placeholders.Regular) :
    changed.condition = joinAll update.condition (effect.joins update) := by
  cases effect with
  | lock revision =>
      obtain rfl := does
      have check : Form.plain.text revisionAttr = lockCheck := by decide
      rw [lock_eq regular, Effect.joins, ← check]
      split <;> rfl
  | merge payload =>
      obtain rfl := does
      exact condition_merge update world.clock payload
  | join expression connective =>
      obtain rfl := does
      rfl
  | _ => exact (does.leaves rfl).condition nofun

/-- The condition of a run is what its calls join, and nothing else. -/
theorem condition_run (regular : update.placeholders.Regular) (calls : List (World × Call)) :
    (update.run calls).2.condition = joinAll update.condition (update.joins calls) := by
  induction calls generalizing update with
  | nil => rfl
  | cons call rest ih =>
      have does := step_does call.1 update call.2
      have tail := ih (does.regular regular)
      rw [does.condition_eq regular] at tail
      rw [joins, joinAll, List.foldl_append]
      exact tail

/-- What is joined comes from calls that join it, but for the check of a lock. -/
theorem forall_mem_joins {P : Connective × String → Prop} {calls : List (World × Call)}
    (called : ∀ call ∈ calls, ∀ expression connective,
      call.2.effect = .join expression connective → P (connective, expression))
    (check : P (.and, lockCheck)) : ∀ j ∈ update.joins calls, P j := by
  induction calls generalizing update with
  | nil => exact fun j mem => absurd mem List.not_mem_nil
  | cons call rest ih =>
      intro j mem
      rw [joins, List.mem_append] at mem
      rcases mem with mem | mem
      · cases effect : call.2.effect with
        | join expression connective =>
            rw [effect, Effect.joins, List.mem_singleton] at mem
            exact mem ▸ called call List.mem_cons_self expression connective effect
        | lock revision =>
            rw [effect, Effect.joins] at mem
            split at mem
            · cases mem
            · exact List.mem_singleton.1 mem ▸ check
        | _ =>
            rw [effect] at mem
            cases mem
      · exact ih (fun other among => called other (List.mem_cons_of_mem _ among)) j mem

/-! ### The lock -/

/-- A check that is joined with AND belongs to the last alternative, and so does what follows. -/
theorem alternatives_append {joins more : List (Connective × String)} (check : String)
    (ands : ∀ j ∈ more, j.1 = .and) :
    ∃ last, check ∈ last ∧
      alternatives (joins ++ (.and, check) :: more) = (alternatives joins).dropLast ++ [last] := by
  have all : ∀ j ∈ (Connective.and, check) :: more, j.1 = .and := by
    intro j mem
    rcases List.mem_cons.1 mem with rfl | mem
    · rfl
    · exact ands j mem
  cases joins with
  | nil => exact ⟨_, List.mem_cons_self, alternativesFrom_of_ands ands check⟩
  | cons j joins =>
      obtain ⟨groups, last, before, after⟩ := alternativesFrom_append all j.2 joins
      refine ⟨last ++ check :: more.map Prod.snd, List.mem_append_right _ List.mem_cons_self, ?_⟩
      rw [alternatives, before, List.dropLast_concat]
      exact after

/--
The check of a lock is enforced just if every alternative before the last one demands it itself,
whatever is joined to it with AND. In particular it is enforced if no condition has been joined to
another with OR.
-/
theorem enforces_lock_iff {settings : Settings} {table : String} {key : List (String × Value)}
    (started : start settings table key = .ok update) {before after : List (World × Call)}
    (world : World) (revision : Nat)
    (unlocked : ∀ call ∈ before, ∀ revision, call.2.effect ≠ .lock revision)
    (operands : ∀ call ∈ before ++ after, ∀ expression connective,
      call.2.effect = .join expression connective → isOperand expression = true)
    (ands : ∀ call ∈ after, ∀ expression connective,
      call.2.effect = .join expression connective → connective = .and) :
    ∃ text, (update.run (before ++ (world, .lock (some revision)) :: after)).2.request.condition =
        some text ∧
      (Enforces text lockCheck ↔
        ∀ alternative ∈ (alternatives (update.joins before)).dropLast,
          ∃ expression ∈ alternative, lexemes expression = lexemes lockCheck) := by
  have fresh := fresh_of_start started
  -- The update is not locked before, so the lock joins its check.
  have joined : update.joins (before ++ (world, .lock (some revision)) :: after) =
      update.joins before ++ (.and, lockCheck) ::
        ((update.run before).2.lock revision).joins after := by
    rw [joins_append, joins]
    change _ ++ ((if (update.run before).2.locked then []
      else [(Connective.and, lockCheck)]) ++ _) = _
    rw [locked_run unlocked, fresh.locked]
    rfl
  have check : isOperand lockCheck = true := by decide
  have all : ∀ j ∈ update.joins before ++ (.and, lockCheck) ::
      ((update.run before).2.lock revision).joins after, isOperand j.2 = true := by
    rw [← joined]
    refine forall_mem_joins (fun call mem expression connective effect => ?_) check
    rcases List.mem_append.1 mem with mem | mem
    · exact operands call (List.mem_append_left _ mem) expression connective effect
    · rcases List.mem_cons.1 mem with rfl | mem
      · cases effect
      · exact operands call (List.mem_append_right _ mem) expression connective effect
  obtain ⟨text, condition, read⟩ := reading_joinAll (by simp) all
  refine ⟨text, ?_, ?_⟩
  · have regular : update.placeholders.Regular :=
      fresh.placeholders ▸ Expression.Placeholders.regular_start
    change (update.run _).2.condition = some text
    rw [condition_run regular, fresh.condition, joined, condition]
  · obtain ⟨last, demanded, eq⟩ := alternatives_append lockCheck
      (forall_mem_joins (P := fun j => j.1 = .and) ands rfl)
    rw [enforces_iff read, eq, List.forall_mem_append, List.forall_mem_singleton,
      and_iff_left ⟨lockCheck, demanded, rfl⟩]

/-- A condition before the lock, and a choice in parentheses behind it. -/
def guardedCalls : List (World × Call) × List (World × Call) :=
  ([(default, .condition "attribute_exists(#id)")],
    [(default, .condition "(#a = :a OR #b = :b)")])

theorem enforces_lock_of_ands :
    ∃ update text, start {} "t" [("id", .text "1")] = .ok update ∧
      (update.run (guardedCalls.1 ++ (default, .lock (some 1)) :: guardedCalls.2)
        ).2.request.condition = some text ∧
      Enforces text lockCheck := by
  have started : start {} "t" [("id", .text "1")] = .ok _ := rfl
  have unlocked : ∀ call ∈ guardedCalls.1, ∀ revision, call.2.effect ≠ .lock revision := by
    intro call mem revision effect
    obtain rfl := List.mem_singleton.1 mem
    cases effect
  have operands : ∀ call ∈ guardedCalls.1 ++ guardedCalls.2, ∀ expression connective,
      call.2.effect = .join expression connective → isOperand expression = true := by
    intro call mem expression connective effect
    rcases List.mem_cons.1 mem with rfl | mem
    · cases effect
      decide
    · obtain rfl := List.mem_singleton.1 mem
      cases effect
      decide
  have ands : ∀ call ∈ guardedCalls.2, ∀ expression connective,
      call.2.effect = .join expression connective → connective = .and := by
    intro call mem expression connective effect
    obtain rfl := List.mem_singleton.1 mem
    cases effect
    rfl
  obtain ⟨text, condition, enforced⟩ :=
    enforces_lock_iff started default 1 unlocked operands ands
  exact ⟨_, text, started, condition, enforced.2 (by decide)⟩

/-- A check that only one of two alternatives demands. -/
theorem not_enforces_lock_of_or :
    ∃ update, start {} "t" [("id", .text "1")] = .ok update ∧
      (update.run [(default, .condition "attribute_exists(#pk)"),
        (default, .condition "#status = :active" .or),
        (default, .lock (some 1))]).2.request.condition =
          some "attribute_exists(#pk) OR #status = :active AND #rev = :rev" ∧
      ¬Enforces "attribute_exists(#pk) OR #status = :active AND #rev = :rev" lockCheck := by
  refine ⟨_, rfl, by decide +kernel, fun enforced => ?_⟩
  -- The item exists, and nothing else is true.
  have := enforced (fun operand => operand = lexemes "attribute_exists(#pk)")
    ⟨[lexemes "attribute_exists(#pk)"], by decide +kernel,
      fun operand mem => List.mem_singleton.1 mem⟩
  revert this
  decide +kernel

end ItemStore.Update
