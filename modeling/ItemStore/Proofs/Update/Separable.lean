import Mathlib
import ItemStore.Proofs.Expression.Clauses
import ItemStore.Proofs.Update.Growth

/-!
# ItemStore.Proofs.Update.Separable

Update expressions are unambiguous.

Clauses whose fragments can be told from the text around them are read back from their expression
(`Expression.readFragments_of_expression?`). What an update writes of its own accord is of that kind,
whatever the attributes are called (`AddsSeparable.step`), so only the caller can make an expression
ambiguous.
-/

namespace ItemStore.Update

open Expression (ClauseKind Clauses Form isSeparable isSeparable_text)

variable {update changed : Update} {world : World} {call : Call}

/-! ### Fragments of the update's own -/

/-- Whether a change adds fragments only that can be told from the text around them. -/
def AddsSeparable (update changed : Update) : Prop :=
  ∀ kind, ∃ added, changed.clauses.fragments kind = update.clauses.fragments kind ++ added ∧
    ∀ fragment ∈ added, isSeparable fragment = true

namespace AddsSeparable

theorem of_clauses_eq (h : changed.clauses = update.clauses) : update.AddsSeparable changed :=
  fun kind => ⟨[], by rw [h, List.append_nil], by simp⟩

/-- It is enough to look at the SET clause if the others stay as they are. -/
theorem of_set (others : ∀ kind, kind ≠ .set →
      changed.clauses.fragments kind = update.clauses.fragments kind)
    (set : ∃ added, changed.clauses.set = update.clauses.set ++ added ∧
      ∀ fragment ∈ added, isSeparable fragment = true) : update.AddsSeparable changed := by
  intro kind
  by_cases is : kind = .set
  · subst is
    exact set
  · exact ⟨[], by rw [others kind is, List.append_nil], by simp⟩

theorem merge (h : update.placeholders.Regular) (clock : Clock) (payload : Payload) :
    update.AddsSeparable (update.merge clock payload) := by
  rw [merge_eq]
  obtain ⟨added, set, spec⟩ := set_foldl_write (update.writes clock payload) update
  refine of_set (fun kind ne => ?_) ⟨added, set, fun fragment mem => ?_⟩
  · refine foldl_write_of_write (fun update => update.clauses.fragments kind) (fun update w => ?_) _
      update
    rw [clauses_write]
    exact fragments_pushUnique_of_ne ne
  · obtain ⟨-, w, -, body, has, rfl⟩ := (spec fragment).1 mem
    exact isSeparable_text w.form ((regular_foldl_write h _).sound.isWord has)

theorem lock (h : update.placeholders.Regular) (revision : Nat) :
    update.AddsSeparable (update.lock revision) := by
  rw [lock_eq h]
  cases update.locked with
  | true => exact of_clauses_eq rfl
  | false =>
      refine of_set (fun kind ne => fragments_pushUnique_of_ne ne) ⟨_, set_pushUnique _ _, ?_⟩
      intro fragment mem
      split at mem
      · cases mem
      · rw [List.mem_singleton.1 mem]
        decide

/-- Only calls with fragments of the caller can add others. -/
theorem does {effect : Effect} (does : update.Does world effect changed)
    (regular : update.placeholders.Regular) (own : ∀ kind texts, effect ≠ .fragments kind texts) :
    update.AddsSeparable changed := by
  cases effect with
  | nothing => exact of_clauses_eq does.clauses
  | lock revision =>
      obtain rfl := does
      exact lock regular revision
  | merge payload =>
      obtain rfl := does
      exact merge regular world.clock payload
  | fragments kind texts => exact absurd rfl (own kind texts)
  | names pairs =>
      obtain rfl := does
      exact of_clauses_eq rfl
  | values pairs =>
      obtain rfl := does
      exact of_clauses_eq rfl
  | join expression connective =>
      obtain rfl := does
      exact of_clauses_eq rfl

end AddsSeparable

theorem fragments?_of_effect {kind : ClauseKind} {texts : List String}
    (h : call.effect = .fragments kind texts) : call.fragments? = some (kind, texts) := by
  cases call with
  | fragment _ _ => cases h; rfl
  | removeAll _ => cases h; rfl
  | lock revision => cases revision <;> cases h
  | mergeDocument document =>
      rw [Call.effect] at h
      split at h <;> cases h
  | condition expression connective =>
      rw [Call.effect] at h
      split at h <;> cases h
  | _ => cases h

/-! ### Expressions -/

/--
Update expressions are unambiguous. Two lists of clauses have the same expression only if they are
the same, provided that all fragments have their parentheses closed, no commas outside of them and
no keyword of a clause among their words. There is no expression just if there are no fragments. And
all fragments that an update adds of its own accord are of that kind: whatever was called before,
a call that does not come with fragments adds none but such, whatever the attributes are called.
-/
theorem clauses_eq_of_same_expression {settings : Settings} {table : String}
    {key : List (String × Value)} (started : start settings table key = .ok update)
    (calls : List (World × Call)) :
    (∀ clauses others : Clauses, clauses.IsSeparable → others.IsSeparable →
      clauses.expression? = others.expression? → clauses = others) ∧
    (∀ clauses : Clauses, clauses.expression? = none ↔ clauses = ∅) ∧
    ∀ world call, call.fragments? = none →
      (update.run calls).2.AddsSeparable ((update.run calls).2.step world call).2 := by
  have regular := regular_run (fresh_of_start started) calls
  refine ⟨fun clauses others => Expression.eq_of_expression?_eq, fun clauses => ?_, ?_⟩
  · rw [Expression.expression?_eq_none_iff]
    constructor
    · intro empty
      obtain ⟨set, add, remove, delete⟩ := clauses
      obtain rfl : set = [] := empty .set
      obtain rfl : add = [] := empty .add
      obtain rfl : remove = [] := empty .remove
      obtain rfl : delete = [] := empty .delete
      rfl
    · rintro rfl kind
      cases kind <;> rfl
  · intro world call foreign
    refine AddsSeparable.does (step_does world _ call) regular fun kind texts eq => ?_
    rw [fragments?_of_effect eq] at foreign
    cases foreign

/-- Calls that lead to fragments with commas in parentheses, in two clauses. -/
def mixedCalls : List (World × Call) :=
  [(default, .merge [("set add", .text "1")]), (default, .fragment .remove "#d[0]"),
    (default, .lock (some 1))]

/-- The clauses to which they lead. -/
def mixedClauses : Clauses where
  set := ["#set_add = :set_add", "#createdAt = if_not_exists(#createdAt, :createdAt)",
    "#updatedAt = :updatedAt", "#rev = #rev + :_addOne"]
  remove := ["#d[0]"]

theorem clauses_eq_of_mixedCalls :
    ∃ update, start {} "t" [("id", .text "1")] = .ok update ∧
      (update.run mixedCalls).2.clauses = mixedClauses ∧
      ((∅ : Clauses).expression? = none ↔ (∅ : Clauses) = ∅) ∧
      (update.run mixedCalls).2.AddsSeparable
        ((update.run mixedCalls).2.step default (.merge [("SET", .null)])).2 := by
  have started : start {} "t" [("id", .text "1")] = .ok _ := rfl
  obtain ⟨injective, empty, own⟩ := clauses_eq_of_same_expression started mixedCalls
  refine ⟨_, started, injective _ _ ?_ ?_ ?_, empty ∅, own default _ rfl⟩
  · intro kind
    cases kind <;> decide +kernel
  · intro kind
    cases kind <;> decide +kernel
  · decide +kernel

end ItemStore.Update
