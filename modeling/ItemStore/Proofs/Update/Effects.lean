import Mathlib
import ItemStore.Proofs.Attempts
import ItemStore.Proofs.Runs
import ItemStore.Proofs.Update.Writes

/-!
# ItemStore.Proofs.Update.Effects

What calls do to the expressions of an update, and what every run of calls keeps.

Most calls change settings, or nothing at all; refused calls are among them. The others have one of
six effects on the expressions (`Effect`). `step_does` says once what each call does, so a fact
about all runs needs a case for each effect and none for each call (`run_induction`).
-/

namespace ItemStore.Update

open ItemStore.Call (forall_map_eq_ok forall_ok_eq_ok invariant_change)
open Expression (ClauseKind Clauses Connective Form Placeholders isAlphanumeric joinCondition
  namePlaceholder valuePlaceholder)

variable {update changed : Update} {world : World}

/-! ### Effects -/

/-- What a call does to the expressions of an update. -/
inductive Effect
  | nothing
  /-- Locks the update on a revision. -/
  | lock (revision : Nat)
  /-- Takes a payload. -/
  | merge (payload : Payload)
  /-- Adds fragments to a clause. -/
  | fragments (kind : ClauseKind) (fragments : List String)
  /-- Says what name placeholders stand for. -/
  | names (pairs : List (String × String))
  /-- Says what value placeholders stand for. -/
  | values (pairs : List (String × Value))
  /-- Joins an expression to the condition. -/
  | join (expression : String) (connective : Connective)

/-- The effect of a call, whatever the update is. -/
def Call.effect : Call → Effect
  | .lock (some revision) => .lock revision
  | .merge payload => .merge payload
  | .mergeDocument document =>
      match Payload.ofDocument document with
      | .ok payload => .merge payload
      | .error _ => .nothing
  | .fragment kind text => .fragments kind [text]
  | .removeAll texts => .fragments .remove texts
  | .names pairs => .names pairs
  | .values pairs => .values pairs
  | .condition expression connective =>
      if Text.isBlank expression then .nothing else .join expression connective
  | _ => .nothing

/-- The parts of a request that callers can write themselves. -/
inductive Part
  /-- A clause of the update expression. -/
  | clause (kind : ClauseKind)
  /-- What name placeholders stand for. -/
  | names
  /-- What value placeholders stand for. -/
  | values
  | condition
deriving DecidableEq, Repr

/-- The part of the request that a call writes as its caller gives it, if it does. -/
def Call.part? : Call → Option Part
  | .fragment kind _ => some (.clause kind)
  | .removeAll _ => some (.clause .remove)
  | .names _ => some .names
  | .values _ => some .values
  | .condition _ _ => some .condition
  | _ => none

/-- The part of the request that an effect changes as the caller gives it. -/
def Effect.part? : Effect → Option Part
  | .fragments kind _ => some (.clause kind)
  | .names _ => some .names
  | .values _ => some .values
  | .join _ _ => some .condition
  | _ => none

/-- Whether an effect makes the update write of its own accord. -/
def Effect.isOwn : Effect → Bool
  | .lock _ | .merge _ => true
  | _ => false

/-- Calls have no effect on parts that they do not write. -/
theorem Call.part?_of_effect {call : Call} {part : Part} (h : call.effect.part? = some part) :
    call.part? = some part := by
  cases call with
  | fragment kind text => exact h
  | removeAll texts => exact h
  | names pairs => exact h
  | values pairs => exact h
  | condition expression connective =>
      rw [effect] at h
      split at h
      · cases h
      · exact h
  | lock revision => cases revision <;> cases h
  | mergeDocument document =>
      rw [effect] at h
      split at h <;> cases h
  | _ => cases h

/--
Whether two updates agree in their expressions, and in what decides how these go on: the lock, and
whether a payload has been taken. Their settings may differ.
-/
structure Keeps (update changed : Update) : Prop where
  clauses : changed.clauses = update.clauses
  placeholders : changed.placeholders = update.placeholders
  names : changed.names = update.names
  values : changed.values = update.values
  condition : changed.condition = update.condition
  merged : changed.merged = update.merged
  locked : changed.locked = update.locked

theorem Keeps.refl (update : Update) : update.Keeps update := ⟨rfl, rfl, rfl, rfl, rfl, rfl, rfl⟩

/-- Adds fragments to a clause, but no blank ones. -/
def addFragments (update : Update) (kind : ClauseKind) (fragments : List String) : Update :=
  fragments.foldl (fun update fragment => update.addFragment kind fragment) update

/-- Joins an expression to the condition. -/
def join (update : Update) (expression : String) (connective : Connective) : Update :=
  { update with condition := some (joinCondition update.condition expression connective) }

/-- Whether an update is what an effect makes of another one. -/
def Does (world : World) (update : Update) : Effect → Update → Prop
  | .nothing, changed => update.Keeps changed
  | .lock revision, changed => changed = update.lock revision
  | .merge payload, changed => changed = update.merge world.clock payload
  | .fragments kind fragments, changed => changed = update.addFragments kind fragments
  | .names pairs, changed => changed = update.addNames pairs
  | .values pairs, changed => changed = update.addValues pairs
  | .join expression connective, changed => changed = update.join expression connective

/-- What holds of every change of a setting holds of those that are made in time. -/
theorem forall_whileBuilding_eq_ok {P : Update → Prop} {setting : Setting}
    {change : Except Refusal Update} (h : ∀ changed, change = .ok changed → P changed) :
    ∀ changed, update.whileBuilding setting change = .ok changed → P changed := by
  unfold whileBuilding
  split
  · exact h
  · intro changed made
    cases made

theorem keeps_withPlan (update : Update) (audit : Audit) (plan : AuditPlan) :
    update.Keeps (update.withPlan audit plan) := by
  cases audit <;> exact ⟨rfl, rfl, rfl, rfl, rfl, rfl, rfl⟩

/-- Every call does what its effect says. -/
theorem step_does (world : World) (update : Update) (call : Call) :
    update.Does world call.effect (update.step world call).2 := by
  cases call with
  | table name =>
      rw [step_table]
      refine invariant_change (P := update.Keeps) (.refl update) ?_
      refine forall_whileBuilding_eq_ok <| forall_map_eq_ok fun _ _ => ?_
      exact ⟨rfl, rfl, rfl, rfl, rfl, rfl, rfl⟩
  | key pairs =>
      rw [step_key]
      refine invariant_change (P := update.Keeps) (.refl update) ?_
      refine forall_whileBuilding_eq_ok <| forall_map_eq_ok fun _ _ => ?_
      exact ⟨rfl, rfl, rfl, rfl, rfl, rfl, rfl⟩
  | mark attrs =>
      rw [step_mark]
      refine invariant_change (P := update.Keeps) (.refl update) ?_
      exact forall_whileBuilding_eq_ok <| forall_ok_eq_ok ⟨rfl, rfl, rfl, rfl, rfl, rfl, rfl⟩
  | disableStamp audit =>
      rw [step_disableStamp]
      refine invariant_change (P := update.Keeps) (.refl update) ?_
      exact forall_whileBuilding_eq_ok <| forall_ok_eq_ok (keeps_withPlan update audit _)
  | stamp audit stamp =>
      rw [step_stamp]
      refine invariant_change (P := update.Keeps) (.refl update) ?_
      exact forall_whileBuilding_eq_ok <| forall_map_eq_ok fun _ _ => keeps_withPlan update audit _
  | lock revision =>
      cases revision with
      | none => exact Keeps.refl update
      | some revision => exact Eq.refl (update.lock revision)
  | merge payload => exact Eq.refl (update.merge world.clock payload)
  | mergeDocument document =>
      rw [Call.effect, step_mergeDocument]
      cases Payload.ofDocument document with
      | ok payload => exact Eq.refl (update.merge world.clock payload)
      | error refusal => exact Keeps.refl update
  | fragment kind text => exact Eq.refl (update.addFragment kind text)
  | removeAll texts => exact Eq.refl (update.addFragments .remove texts)
  | names pairs => exact Eq.refl (update.addNames pairs)
  | values pairs => exact Eq.refl (update.addValues pairs)
  | condition expression connective =>
      rw [Call.effect, step_condition]
      split
      · exact Keeps.refl update
      · exact Eq.refl (update.join expression connective)
  | returnValues choice => exact Keeps.mk rfl rfl rfl rfl rfl rfl rfl
  | metrics choice => exact Keeps.mk rfl rfl rfl rfl rfl rfl rfl
  | capacity choice => exact Keeps.mk rfl rfl rfl rfl rfl rfl rfl
  | request => exact Keeps.mk rfl rfl rfl rfl rfl rfl rfl
  | execute => exact Keeps.mk rfl rfl rfl rfl rfl rfl rfl

/-! ### Runs -/

/-- What each of the calls keeps, a run of them keeps. -/
theorem run_induction {P : Update → Prop} {calls : List (World × Call)}
    (step : ∀ call ∈ calls, ∀ update changed, update.Does call.1 call.2.effect changed →
      P update → P changed)
    (start : P update) : P (update.run calls).2 := by
  induction calls generalizing update with
  | nil => exact start
  | cons call rest ih =>
      refine ih (fun next mem => step next (List.mem_cons_of_mem _ mem)) ?_
      exact step call List.mem_cons_self _ _ (step_does call.1 update call.2) start

theorem run_append (update : Update) (calls others : List (World × Call)) :
    (update.run (calls ++ others)).2 = ((update.run calls).2.run others).2 := by
  unfold run
  rw [ItemStore.Call.run_append]

/-- An update to which nothing has been added yet. Only the body of the increment is taken. -/
structure Fresh (update : Update) : Prop where
  clauses : update.clauses = ∅
  placeholders : update.placeholders = Placeholders.reserve ∅ incrementBody
  names : update.names = ∅
  values : update.values = ∅
  condition : update.condition = none
  merged : update.merged = false
  locked : update.locked = false

/-- An update starts with no expressions, whatever the settings, the table and the key are. -/
theorem fresh_of_start {settings : Settings} {table : String} {key : List (String × Value)}
    (h : start settings table key = .ok update) : update.Fresh := by
  unfold start at h
  cases named : Address.table table with
  | error refusal => rw [named] at h; cases h
  | ok table =>
      cases keyed : Address.key key with
      | error refusal => rw [named, keyed] at h; cases h
      | ok key =>
          rw [named, keyed] at h
          obtain rfl := Except.ok.inj h
          exact ⟨rfl, rfl, rfl, rfl, rfl, rfl, rfl⟩

/-! ### Built requests -/

/-- A call that builds a request builds that of the update as it stands. -/
theorem eq_request_of_built? {call : Call} {request : UpdateRequest}
    (h : (update.step world call).1.built? = some request) : request = update.request := by
  cases call with
  | request => exact (Option.some.inj h).symm
  | execute => exact (Option.some.inj h).symm
  | lock revision => cases revision <;> cases h
  | _ =>
      -- The other calls come back with nothing, or with a refusal.
      first
      | cases h
      | rw [step, ItemStore.Call.built?_take] at h
        cases h

/-- A request that is built in a run is that of the update at which some calls of it lead. -/
theorem exists_of_mem_built {calls : List (World × Call)} {request : UpdateRequest}
    (h : request ∈ (update.run calls).1.filterMap ItemStore.Call.Result.built?) :
    ∃ before after, calls = before ++ after ∧ request = (update.run before).2.request := by
  induction calls generalizing update with
  | nil => cases h
  | cons call rest ih =>
      obtain ⟨result, mem, built⟩ := List.mem_filterMap.1 h
      rcases List.mem_cons.1 mem with rfl | mem
      · exact ⟨[], call :: rest, rfl, eq_request_of_built? built⟩
      · obtain ⟨before, after, rfl, rfl⟩ := ih (List.mem_filterMap.2 ⟨result, mem, built⟩)
        exact ⟨call :: before, after, rfl, rfl⟩

/-! ### What effects leave alone -/

/-- Whether a change leaves the expressions alone but for one part. -/
structure Leaves (part : Option Part) (update changed : Update) : Prop where
  placeholders : changed.placeholders = update.placeholders
  merged : changed.merged = update.merged
  locked : changed.locked = update.locked
  clauses : ∀ kind, part ≠ some (.clause kind) →
    changed.clauses.fragments kind = update.clauses.fragments kind
  names : part ≠ some .names → changed.names = update.names
  values : part ≠ some .values → changed.values = update.values
  condition : part ≠ some .condition → changed.condition = update.condition

theorem addFragments_eq (update : Update) (kind : ClauseKind) (texts : List String) :
    update.addFragments kind texts =
      { update with
        clauses := (texts.filter fun text => !Text.isBlank text).foldl
          (fun clauses text => clauses.push kind text) update.clauses } := by
  induction texts generalizing update with
  | nil => rfl
  | cons text rest ih =>
      rw [addFragments, List.foldl_cons, ← addFragments, ih, addFragment]
      by_cases blank : Text.isBlank text = true
      · rw [if_pos blank, List.filter_cons_of_neg (by simp [blank])]
      · rw [if_neg blank, List.filter_cons_of_pos (by simp [blank])]
        rfl

theorem fragments_addFragments (update : Update) (kind : ClauseKind) (texts : List String) :
    (update.addFragments kind texts).clauses.fragments kind =
      update.clauses.fragments kind ++ texts.filter fun text => !Text.isBlank text := by
  rw [addFragments_eq]
  show Clauses.fragments (List.foldl _ update.clauses _) kind = _
  generalize update.clauses = clauses
  induction texts.filter fun text => !Text.isBlank text generalizing clauses with
  | nil => simp
  | cons text rest ih => simp [ih]

theorem leaves_addFragments (update : Update) (kind : ClauseKind) (texts : List String) :
    Leaves (some (.clause kind)) update (update.addFragments kind texts) := by
  rw [addFragments_eq]
  refine ⟨rfl, rfl, rfl, fun other ne => ?_, fun _ => rfl, fun _ => rfl, fun _ => rfl⟩
  have ne : other ≠ kind := fun eq => ne (congrArg (some ∘ Part.clause) eq.symm)
  show Clauses.fragments (List.foldl _ update.clauses _) other = _
  -- The induction is for all clauses, since each fragment changes them.
  generalize update.clauses = clauses
  induction texts.filter fun text => !Text.isBlank text generalizing clauses with
  | nil => rfl
  | cons text rest ih => rw [List.foldl_cons, ih, Clauses.fragments_push_of_ne ne]

/-- An effect by which the update writes nothing itself changes the caller's part at most. -/
theorem Does.leaves {effect : Effect} (does : update.Does world effect changed)
    (foreign : effect.isOwn = false) : Leaves effect.part? update changed := by
  cases effect with
  | nothing =>
      exact ⟨does.placeholders, does.merged, does.locked, fun kind _ => by rw [does.clauses],
        fun _ => does.names, fun _ => does.values, fun _ => does.condition⟩
  | lock revision => cases foreign
  | merge payload => cases foreign
  | fragments kind texts =>
      obtain rfl := does
      exact leaves_addFragments update kind texts
  | names pairs =>
      obtain rfl := does
      exact ⟨rfl, rfl, rfl, fun _ _ => rfl, fun ne => absurd rfl ne, fun _ => rfl, fun _ => rfl⟩
  | values pairs =>
      obtain rfl := does
      exact ⟨rfl, rfl, rfl, fun _ _ => rfl, fun _ => rfl, fun ne => absurd rfl ne, fun _ => rfl⟩
  | join expression connective =>
      obtain rfl := does
      exact ⟨rfl, rfl, rfl, fun _ _ => rfl, fun _ => rfl, fun _ => rfl, fun ne => absurd rfl ne⟩

/-! ### Payloads and locks -/

@[simp] theorem condition_merge (update : Update) (clock : Clock) (payload : Payload) :
    (update.merge clock payload).condition = update.condition := by
  rw [merge_eq]
  exact foldl_write_of_write (fun update => update.condition) (fun _ _ => rfl) _ update

@[simp] theorem locked_merge (update : Update) (clock : Clock) (payload : Payload) :
    (update.merge clock payload).locked = update.locked := by
  rw [merge_eq]
  exact foldl_write_of_write (fun update => update.locked) (fun _ _ => rfl) _ update

@[simp] theorem locked_lock (update : Update) (revision : Nat) :
    (update.lock revision).locked = true := by
  unfold lock
  cases locked : update.locked <;> simp [locked]

@[simp] theorem merged_lock (update : Update) (revision : Nat) :
    (update.lock revision).merged = update.merged := by
  unfold lock
  cases update.locked <;> simp

/-- A lock, its texts written out. -/
theorem lock_eq (h : update.placeholders.Regular) (revision : Nat) :
    update.lock revision =
      { update with
        placeholders := (update.placeholders.body revisionAttr).2
        clauses := if update.locked then update.clauses else
          update.clauses.pushUnique .set (Form.increment.text revisionAttr)
        condition := if update.locked then update.condition else
          some (joinCondition update.condition (Form.plain.text revisionAttr) .and)
        names := update.names.insert (namePlaceholder revisionAttr) revisionAttr
        values := (update.values.insert (valuePlaceholder revisionAttr) (.ofInt revision)).insert
          (valuePlaceholder incrementBody) (.ofInt 1)
        locked := true } := by
  -- No other attribute can have taken the body before.
  have body : update.placeholders.body revisionAttr =
      (revisionAttr, (update.placeholders.body revisionAttr).2) :=
    Prod.ext (h.body_eq (by decide)) rfl
  rw [lock, body]
  cases locked : update.locked with
  | false => rfl
  | true => simp only [if_true, locked]

/-! ### The registry and the lock in runs -/

theorem Does.regular {effect : Effect} (does : update.Does world effect changed)
    (regular : update.placeholders.Regular) : changed.placeholders.Regular := by
  cases effect with
  | lock revision =>
      obtain rfl := does
      exact regular.body revisionAttr
  | merge payload =>
      obtain rfl := does
      rw [merge_eq]
      exact regular_foldl_write regular _
  | _ =>
      rw [(does.leaves rfl).placeholders]
      exact regular

/-- In every run the registry is regular, whatever the caller writes himself. -/
theorem regular_run (fresh : update.Fresh) (calls : List (World × Call)) :
    (update.run calls).2.placeholders.Regular :=
  run_induction (P := fun update => update.placeholders.Regular)
    (fun _ _ _ _ does regular => does.regular regular)
    (fresh.placeholders ▸ Placeholders.regular_start)

/-- Only locks lock. -/
theorem Does.locked_eq {effect : Effect} (does : update.Does world effect changed)
    (ne : ∀ revision, effect ≠ .lock revision) : changed.locked = update.locked := by
  cases effect with
  | lock revision => exact absurd rfl (ne revision)
  | merge payload =>
      obtain rfl := does
      exact locked_merge update world.clock payload
  | _ => exact (does.leaves rfl).locked

/-- Only payloads settle the timestamps. -/
theorem Does.merged_eq {effect : Effect} (does : update.Does world effect changed)
    (ne : ∀ payload, effect ≠ .merge payload) : changed.merged = update.merged := by
  cases effect with
  | lock revision =>
      obtain rfl := does
      exact merged_lock update revision
  | merge payload => exact absurd rfl (ne payload)
  | _ => exact (does.leaves rfl).merged

theorem locked_run {calls : List (World × Call)}
    (none : ∀ call ∈ calls, ∀ revision, call.2.effect ≠ .lock revision) :
    (update.run calls).2.locked = update.locked :=
  run_induction (P := fun changed => changed.locked = update.locked)
    (fun call mem _ _ does kept => (does.locked_eq (none call mem)).trans kept) rfl

end ItemStore.Update
