import Mathlib
import ItemStore.Proofs.Update.Effects

/-!
# ItemStore.Proofs.Update.Finalized

What the building of a request fixes, for all calls behind it.

Calls that change a setting look at the phase before anything else, and the other calls do not look
at it at all. So behind a request the former are refused, whatever they are given
(`step_of_setting`), and the latter do the same as before it (`step_inPhase`).
-/

namespace ItemStore.Update

variable {update fixed changed : Update} {world : World} {call : Call}

/-! ### Settings and other calls -/

/-- The setting that a call changes, if it changes one. -/
def Call.setting? : Call → Option Setting
  | .table _ => some .table
  | .key _ => some .key
  | .mark _ => some .mark
  | .disableStamp audit => some (.disableStamp audit)
  | .stamp audit _ => some (.stamp audit)
  | _ => none

/-- The method that changes a setting, for the calls that change one. -/
def Call.method? : Call → Option String
  | .table _ => some "table"
  | .key _ => some "key"
  | .mark _ => some "mark"
  | .disableStamp .created => some "disable_created_at"
  | .stamp .created _ => some "created_at"
  | .disableStamp .updated => some "disable_updated_at"
  | .stamp .updated _ => some "updated_at"
  | _ => none

theorem Call.method?_eq (call : Call) : call.method? = call.setting?.map Setting.call := by
  cases call with
  | disableStamp audit => cases audit <;> rfl
  | stamp audit _ => cases audit <;> rfl
  | _ => rfl

/-- The update as it would be in another phase. -/
def inPhase (update : Update) (phase : Phase) : Update := { update with phase }

theorem inPhase_of_phase {phase : Phase} (h : update.phase = phase) :
    update.inPhase phase = update := by
  cases h
  rfl

theorem change_whileBuilding (finalized : update.phase = .finalized) (setting : Setting)
    (change : Except Refusal Update) :
    ItemStore.Call.change (ρ := UpdateRequest) (α := UpdateResponse) update
        (update.whileBuilding setting change) = (.refused (.finalized setting), update) := by
  unfold whileBuilding
  rw [finalized]
  rfl

/-- Behind a request no setting changes, whatever the call is given. -/
theorem step_of_setting (finalized : update.phase = .finalized) {setting : Setting}
    (sets : call.setting? = some setting) :
    update.step world call = (.refused (.finalized setting), update) := by
  cases call with
  | table name =>
      cases sets
      rw [step_table, change_whileBuilding finalized]
  | key pairs =>
      cases sets
      rw [step_key, change_whileBuilding finalized]
  | mark attrs =>
      cases sets
      rw [step_mark, change_whileBuilding finalized]
  | disableStamp audit =>
      cases sets
      rw [step_disableStamp, change_whileBuilding finalized]
  | stamp audit stamp =>
      cases sets
      rw [step_stamp, change_whileBuilding finalized]
  | _ => cases sets

/-! ### Calls and phases -/

theorem foldl_write_inPhase (ws : List Write) (update : Update) (phase : Phase) :
    ws.foldl write (update.inPhase phase) = (ws.foldl write update).inPhase phase := by
  induction ws generalizing update with
  | nil => rfl
  | cons w ws ih => exact ih (update.write w)

theorem merge_inPhase (update : Update) (phase : Phase) (clock : Clock) (payload : Payload) :
    (update.inPhase phase).merge clock payload = (update.merge clock payload).inPhase phase := by
  have same : (update.inPhase phase).writes clock payload = update.writes clock payload := rfl
  rw [merge_eq, merge_eq, same, foldl_write_inPhase]
  rfl

theorem lock_inPhase (update : Update) (phase : Phase) (revision : Nat) :
    (update.inPhase phase).lock revision = (update.lock revision).inPhase phase := by
  unfold lock
  cases locked : update.locked <;> simp [inPhase, locked]

theorem addFragments_inPhase (update : Update) (phase : Phase) (kind : Expression.ClauseKind)
    (texts : List String) :
    (update.inPhase phase).addFragments kind texts =
      (update.addFragments kind texts).inPhase phase := by
  rw [addFragments_eq, addFragments_eq]
  rfl

theorem change_inPhase {phase : Phase} {result other : Except Refusal Update}
    (h : other = result.map fun changed => changed.inPhase phase) (last : Phase) :
    (ItemStore.Call.change (ρ := UpdateRequest) (α := UpdateResponse)
        (update.inPhase phase) other).1 = (ItemStore.Call.change update result).1 ∧
      (ItemStore.Call.change (ρ := UpdateRequest) (α := UpdateResponse)
          (update.inPhase phase) other).2.inPhase last =
        (ItemStore.Call.change (ρ := UpdateRequest) (α := UpdateResponse)
          update result).2.inPhase last := by
  rw [h]
  cases result with
  | ok changed => exact ⟨rfl, rfl⟩
  | error refusal => exact ⟨rfl, rfl⟩

/-- A call that changes no setting does the same in every phase. -/
theorem step_inPhase (sets : call.setting? = none) (world : World) (update : Update)
    (phase last : Phase) :
    ((update.inPhase phase).step world call).1 = (update.step world call).1 ∧
      ((update.inPhase phase).step world call).2.inPhase last =
        (update.step world call).2.inPhase last := by
  cases call with
  | lock revision =>
      cases revision with
      | none => exact ⟨rfl, rfl⟩
      | some revision =>
          rw [step, lock_inPhase]
          exact ⟨rfl, rfl⟩
  | merge payload =>
      rw [step, merge_inPhase]
      exact ⟨rfl, rfl⟩
  | mergeDocument document =>
      rw [step_mergeDocument, step_mergeDocument]
      apply change_inPhase
      cases Payload.ofDocument document with
      | ok payload => exact congrArg Except.ok (merge_inPhase update phase world.clock payload)
      | error refusal => rfl
  | fragment kind text =>
      have same := addFragments_inPhase update phase kind [text]
      exact ⟨rfl, congrArg (fun changed => changed.inPhase last) same⟩
  | removeAll texts =>
      have same := addFragments_inPhase update phase .remove texts
      exact ⟨rfl, congrArg (fun changed => changed.inPhase last) same⟩
  | condition expression connective =>
      rw [step_condition, step_condition]
      apply change_inPhase
      split <;> rfl
  | table _ | key _ | mark _ | disableStamp _ | stamp _ _ => cases sets
  | _ => exact ⟨rfl, rfl⟩

/-! ### What stays fixed -/

/-- Whether the request is still built, with all settings as they were. -/
structure Frozen (fixed update : Update) : Prop where
  phase : update.phase = .finalized
  table : update.table = fixed.table
  key : update.key = fixed.key
  marked : update.marked = fixed.marked
  plan : ∀ audit, update.plan audit = fixed.plan audit

theorem Frozen.refl (finalized : update.phase = .finalized) : Frozen update update :=
  ⟨finalized, rfl, rfl, rfl, fun _ => rfl⟩

/-- No call thaws a setting. -/
theorem Frozen.step (h : Frozen fixed update) (world : World) (call : Call) :
    Frozen fixed (update.step world call).2 := by
  have fragments (kind : Expression.ClauseKind) (texts : List String) :
      Frozen fixed (update.addFragments kind texts) := by
    rw [addFragments_eq]
    exact ⟨h.phase, h.table, h.key, h.marked, h.plan⟩
  have merge (payload : Payload) : Frozen fixed (update.merge world.clock payload) := by
    rw [merge_eq]
    have all : Frozen fixed ((update.writes world.clock payload).foldl write update) :=
      foldl_write_induction (P := Frozen fixed)
        (fun _ _ _ kept => ⟨kept.phase, kept.table, kept.key, kept.marked, kept.plan⟩) h
    exact ⟨all.phase, all.table, all.key, all.marked, all.plan⟩
  cases call with
  | lock revision =>
      cases revision with
      | none => exact h
      | some revision =>
          show Frozen fixed (update.lock revision)
          unfold lock
          cases update.locked <;> exact ⟨h.phase, h.table, h.key, h.marked, h.plan⟩
  | merge payload => exact merge payload
  | mergeDocument document =>
      rw [step_mergeDocument]
      cases Payload.ofDocument document with
      | ok payload => exact merge payload
      | error refusal => exact h
  | fragment kind text => exact fragments kind [text]
  | removeAll texts => exact fragments .remove texts
  | condition expression connective =>
      rw [step_condition]
      split
      · exact h
      · exact ⟨h.phase, h.table, h.key, h.marked, h.plan⟩
  | request => exact ⟨rfl, h.table, h.key, h.marked, h.plan⟩
  | execute => exact ⟨rfl, h.table, h.key, h.marked, h.plan⟩
  | table _ | key _ | mark _ | disableStamp _ | stamp _ _ =>
      rw [step_of_setting h.phase rfl]
      exact h
  | _ => exact ⟨h.phase, h.table, h.key, h.marked, h.plan⟩

theorem Frozen.run (h : Frozen fixed update) (calls : List (World × Call)) :
    Frozen fixed (update.run calls).2 := by
  induction calls generalizing update with
  | nil => exact h
  | cons call rest ih => exact ih (h.step call.1 call.2)

/-- Whether a refusal is about a method that is called after the request has been built. -/
structure IsLate (method : String) (refusal : Refusal) : Prop where
  kind : refusal.kind = .configuration
  message : refusal.message = "Cannot call Updater." ++ method ++
    "() after you called Updater.execute(). Call " ++ method ++ "() before calling execute()."

/--
Once a request has been built, it stays built and the settings stay as they are, whatever is called.
Later requests have the table and the key of this one. Calls that change a setting are refused for
being late and change nothing, and the others do what they do while the update is being built.
-/
theorem frozen_of_built {result : Result} (took : update.step world call = (result, fixed))
    (builds : call = .request ∨ call = .execute) (after : List (World × Call)) :
    ∃ built, result.built? = some built ∧
      Frozen fixed (fixed.run after).2 ∧
      (∀ request ∈ (fixed.run after).1.filterMap ItemStore.Call.Result.built?,
        request.table = built.table ∧ request.key = built.key) ∧
      (∀ world next method, next.method? = some method →
        ∃ refusal, IsLate method refusal ∧
          (fixed.run after).2.step world next = (.refused refusal, (fixed.run after).2)) ∧
      ∀ world next, next.method? = none →
        (fixed.run after).2.step world next =
          ((((fixed.run after).2.inPhase .building).step world next).1,
            (((fixed.run after).2.inPhase .building).step world next).2.inPhase .finalized) := by
  have finished : result.built? = some update.request ∧ fixed = update.finalize := by
    rcases builds with rfl | rfl <;> cases took <;> exact ⟨rfl, rfl⟩
  obtain ⟨built, rfl⟩ := finished
  have start : Frozen update.finalize update.finalize := .refl rfl
  have later := start.run after
  refine ⟨_, built, later, ?_, ?_, ?_⟩
  · intro request mem
    obtain ⟨first, rest, -, rfl⟩ := exists_of_mem_built mem
    exact ⟨(start.run first).table, (start.run first).key⟩
  · intro world next method named
    rw [Call.method?_eq] at named
    obtain ⟨setting, sets, rfl⟩ := Option.map_eq_some_iff.1 named
    exact ⟨.finalized setting, ⟨rfl, rfl⟩, step_of_setting later.phase sets⟩
  · intro world next named
    rw [Call.method?_eq] at named
    have sets := Option.map_eq_none_iff.1 named
    obtain ⟨same, change⟩ := step_inPhase sets world
      (update.finalize.run after).2 .building .finalized
    rw [same, change, inPhase_of_phase (later.step world next).phase]

/-- Calls behind a request: two settings, one of them not valid, a payload and another request. -/
def lateCalls : List (World × Call) :=
  [(default, .table " "), (default, .merge [("a", .text "")]), (default, .mark ["a"]),
    (default, .request)]

theorem frozen_of_execute :
    ∃ update result fixed, start {} "t" [("id", .text "1")] = .ok update ∧
      update.step default .execute = (result, fixed) ∧
      ∃ built, result.built? = some built ∧ Frozen fixed (fixed.run lateCalls).2 := by
  obtain ⟨update, started⟩ : ∃ update, start {} "t" [("id", .text "1")] = .ok update := ⟨_, rfl⟩
  have took : update.step default .execute = (_, _) := rfl
  obtain ⟨built, is, frozen, -⟩ := frozen_of_built took (.inr rfl) lateCalls
  exact ⟨update, _, _, started, took, built, is, frozen⟩

end ItemStore.Update
