import Mathlib
import ItemStore.Proofs.Update.Growth
import ItemStore.Proofs.Update.Overlap

/-!
# ItemStore.Proofs.Update.ConditionText

The condition of a request, as a text: what the accepted calls of a run ask for, in order.

What a call asks for can be told from the call and from what it comes back with, without the update
(`Call.demand?`); all that a run has to remember is whether it has locked. The text says just that
(`joinAll_none`): the first expression as it stands, and each later one behind its connective.
-/

namespace ItemStore.Update

open Expression (Connective joinAll joinCondition)

variable {update : Update} {world : World} {call : Call}

/-! ### What calls ask for -/

/-- What a call asks for, by what it came back with and by whether an earlier one has locked. -/
def Call.demand? (locked : Bool) : Call → Result → Option (Connective × String)
  | .condition expression connective, .done => some (connective, expression)
  | .lock (some _), _ => if locked then none else some (.and, lockCheck)
  | _, _ => none

/-- What calls ask for, in order, when it is known what each came back with. -/
def demands : (locked : Bool) → List (Call × Result) → List (Connective × String)
  | _, [] => []
  | locked, (call, result) :: rest =>
      (call.demand? locked result).toList ++ demands (locked || call.locks) rest

/-- The calls of a run, each with what it comes back with. -/
def outcomes (update : Update) (calls : List (World × Call)) : List (Call × Result) :=
  (calls.map Prod.snd).zip (update.run calls).1

theorem outcomes_cons (update : Update) (call : World × Call) (rest : List (World × Call)) :
    update.outcomes (call :: rest) =
      (call.2, (update.step call.1 call.2).1) :: (update.step call.1 call.2).2.outcomes rest := rfl

/-- A condition is accepted just if it is not blank. -/
theorem step_condition_eq_done_iff {expression : String} {connective : Connective} :
    (update.step world (.condition expression connective)).1 = .done ↔
      Text.isBlank expression = false := by
  rw [step_condition]
  cases Text.isBlank expression <;> simp [ItemStore.Call.change]

/-- A call joins to the condition what it asks for. -/
theorem demand?_step (update : Update) (world : World) (call : Call) :
    (call.demand? update.locked (update.step world call).1).toList = call.effect.joins update := by
  cases call with
  | condition expression connective =>
      rw [step_condition, Call.effect]
      cases Text.isBlank expression <;> rfl
  | lock revision =>
      cases revision with
      | none => rfl
      | some revision =>
          rw [Call.demand?, Call.effect, Effect.joins]
          split <;> rfl
  | mergeDocument document =>
      rw [Call.effect]
      cases Payload.ofDocument document <;> rfl
  | _ => rfl

theorem locked_step (update : Update) (world : World) (call : Call) :
    (update.step world call).2.locked = (update.locked || call.locks) := by
  have does := step_does world update call
  cases locks : call.locks with
  | true =>
      obtain ⟨revision, effect⟩ := Call.locks_iff.1 locks
      rw [effect] at does
      rw [does, locked_lock, Bool.or_true]
  | false =>
      rw [does.locked_eq fun revision effect => ?_, Bool.or_false]
      rw [Call.locks_iff.2 ⟨revision, effect⟩] at locks
      cases locks

/-- A run joins to the condition what its calls ask for. -/
theorem joins_eq_demands (update : Update) (calls : List (World × Call)) :
    update.joins calls = demands update.locked (update.outcomes calls) := by
  induction calls generalizing update with
  | nil => rfl
  | cons call rest ih =>
      rw [joins, ih, outcomes_cons, demands, demand?_step, locked_step]

/-! ### The text -/

/-- Expressions as one text: the first as it stands, each later one behind its connective. -/
def joinedText? : List (Connective × String) → Option String
  | [] => none
  | (_, first) :: rest =>
      some (first ++ String.join (rest.map fun j => " " ++ j.1.keyword ++ " " ++ j.2))

/-- What is joined to an expression stands behind it. -/
theorem joinAll_some {joins : List (Connective × String)} {condition : String}
    (filled : condition ≠ "") :
    joinAll (some condition) joins =
      some (condition ++ String.join (joins.map fun j => " " ++ j.1.keyword ++ " " ++ j.2)) := by
  induction joins generalizing condition with
  | nil => simp [joinAll]
  | cons j joins ih =>
      have join : joinCondition (some condition) j.2 j.1 =
          condition ++ (" " ++ j.1.keyword ++ " " ++ j.2) := by
        rw [joinCondition, if_neg (by simpa using filled)]
        simp only [String.append_assoc]
      -- An empty condition would be replaced, but this one only grows.
      have filledNext : condition ++ (" " ++ j.1.keyword ++ " " ++ j.2) ≠ "" :=
        fun empty => filled (String.append_eq_empty_iff.1 empty).1
      rw [joinAll, List.foldl_cons, join, ← joinAll, ih filledNext, List.map_cons, String.join_cons,
        String.append_assoc]

theorem joinAll_none {joins : List (Connective × String)} (filled : ∀ j ∈ joins, j.2 ≠ "") :
    joinAll none joins = joinedText? joins := by
  cases joins with
  | nil => rfl
  | cons j rest => exact joinAll_some (filled j List.mem_cons_self)

/-- No call joins an empty expression. -/
theorem ne_empty_of_mem_joins {calls : List (World × Call)} :
    ∀ j ∈ update.joins calls, j.2 ≠ "" := by
  refine forall_mem_joins (fun call _ expression connective effect empty => ?_) (by decide)
  have visible := visible_of_effect_join effect
  rw [show expression = "" from empty] at visible
  cases visible

/-! ### Requests -/

/--
The condition of every request is what the accepted calls before it ask for, in order and as they
say it: the expressions of conditions, each with its connective, and the check of the lock at the
first call that locks on a revision. Without such calls there is none. Whatever else is called adds
nothing: refused conditions, which are the blank ones, further locks, locks on no revision, and
payloads, names and values, whatever they are.
-/
theorem condition_of_built {settings : Settings} {table : String} {key : List (String × Value)}
    (started : start settings table key = .ok update) (calls : List (World × Call)) :
    (∀ world call request, ((update.run calls).2.step world call).1.built? = some request →
      request.condition = joinedText? (demands false (update.outcomes calls))) ∧
    ∀ world expression connective,
      ((update.run calls).2.step world (.condition expression connective)).1 = .done ↔
        Text.isBlank expression = false := by
  have fresh := fresh_of_start started
  have regular : update.placeholders.Regular :=
    fresh.placeholders ▸ Expression.Placeholders.regular_start
  refine ⟨fun world call request built => ?_, fun _ _ _ => step_condition_eq_done_iff⟩
  rw [eq_request_of_built? built]
  calc (update.run calls).2.condition
      = joinAll none (update.joins calls) := by rw [condition_run regular, fresh.condition]
    _ = joinedText? (update.joins calls) := joinAll_none ne_empty_of_mem_joins
    _ = joinedText? (demands false (update.outcomes calls)) := by
      rw [joins_eq_demands, fresh.locked]

/-- Conditions and locks, with refused and repeated ones, and attributes named like the revision. -/
def conditionCalls : List (World × Call) :=
  [(default, .condition " "), (default, .merge [("re-v", .null), ("rev", .null)]),
    (default, .lock none), (default, .condition "#a = :a" .or), (default, .lock (some 1)),
    (default, .names [("#rev", "a")]), (default, .lock (some 2)), (default, .request),
    (default, .condition "#b = :b" .or)]

theorem condition_of_conditionCalls :
    ∃ update, start {} "t" [("id", .text "1")] = .ok update ∧
      (update.run conditionCalls).2.request.condition =
        joinedText? (demands false (update.outcomes conditionCalls)) ∧
      joinedText? (demands false (update.outcomes conditionCalls)) =
        some "#a = :a AND #rev = :rev OR #b = :b" := by
  have started : start {} "t" [("id", .text "1")] = .ok _ := rfl
  have requests := (condition_of_built started conditionCalls).1
  exact ⟨_, started, requests default .request _ rfl, by decide +kernel⟩

end ItemStore.Update
