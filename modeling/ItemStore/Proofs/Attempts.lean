import Mathlib
import ItemStore.Read.Any
import ItemStore.Update.Call

/-!
# ItemStore.Proofs.Attempts

Attempts that change a builder as a whole or not at all.

An attempt may leave anything behind when it is refused. The operations of builders do not: what
they leave is the builder changed by what they are given, or else the builder as it was
(`Attempt.Settles`). This is shown for each of them along its steps. From there on its call is a
change that is made or is not made (`Call.change`), and nothing else looks at the steps again.
-/

namespace ItemStore

variable {σ τ ρ α β : Type} {builder : σ} {refusal : Refusal}

/-! ### What attempts leave -/

namespace Attempt

/--
Whether an attempt leaves the changed builder, or tells why there is none and leaves the old one.
-/
def Settles (attempt : Attempt σ Unit) (builder : σ) : Except Refusal σ → Prop
  | .ok changed => attempt builder = (.ok (), changed)
  | .error refusal => attempt builder = (.error refusal, builder)

theorem settles_modify (change : σ → σ) (builder : σ) :
    Settles (modify change) builder (.ok (change builder)) :=
  modify_apply change builder

theorem settles_throw (refusal : Refusal) (builder : σ) :
    Settles (throw refusal) builder (.error refusal) :=
  throw_apply refusal builder

/-- Who checks what he is given, and writes only then, leaves nothing half done. -/
theorem settles_checked (result : Except Refusal α) (set : α → σ → σ) (builder : σ) :
    Settles (do let a ← liftM result; modify (set a)) builder
      (result.map fun a => set a builder) := by
  cases result with
  | ok a => exact bind_of_ok (lift_apply _ builder)
  | error refusal => exact bind_of_error (lift_apply _ builder)

end Attempt

/-! ### Calls that attempt something -/

namespace Call

/-- What comes of a change that is made, or else is refused and leaves the builder as it was. -/
def change (builder : σ) : Except Refusal σ → Result ρ α × σ
  | .ok changed => (.done, changed)
  | .error refusal => (.refused refusal, builder)

theorem take_eq_change {attempt : Attempt σ Unit} {result : Except Refusal σ}
    (h : attempt.Settles builder result) :
    take (ρ := ρ) (α := α) builder attempt = change builder result := by
  unfold take
  cases result with
  | ok changed => rw [show attempt builder = (.ok (), changed) from h]; rfl
  | error refusal => rw [show attempt builder = (.error refusal, builder) from h]; rfl

variable {P : σ → Prop}

/-- An attempt to change a builder builds no request, and sends none. -/
theorem built?_take (builder : σ) (attempt : Attempt σ Unit) :
    (take (ρ := ρ) (α := α) builder attempt).1.built? = none := by
  unfold take
  rcases attempt builder with ⟨_ | _, _⟩ <;> rfl

/-- What holds of a builder and of a change of it holds behind the change, made or refused. -/
theorem invariant_change {result : Except Refusal σ} (kept : P builder)
    (made : ∀ changed, result = .ok changed → P changed) :
    P (change (ρ := ρ) (α := α) builder result).2 := by
  cases result with
  | ok changed => exact made changed rfl
  | error refusal => exact kept

theorem forall_ok_eq_ok {changed : σ} (h : P changed) :
    ∀ other, (.ok changed : Except Refusal σ) = .ok other → P other := by
  intro other same
  cases same
  exact h

theorem forall_map_eq_ok {result : Except Refusal β} {set : β → σ}
    (h : ∀ b, result = .ok b → P (set b)) :
    ∀ changed, result.map set = .ok changed → P changed := by
  cases result with
  | ok b => exact forall_ok_eq_ok (h b rfl)
  | error refusal => exact nofun

end Call

/-! ### The calls to an update -/

namespace Update

variable {update : Update} {world : World}

/-- A change that is made until the request has been built, and refused from then on. -/
def whileBuilding (update : Update) (setting : Setting) (change : Except Refusal Update) :
    Except Refusal Update :=
  match update.phase with
  | .building => change
  | .finalized => .error (.finalized setting)

theorem ensureBuilding_of_building (phase : update.phase = .building) (setting : Setting) :
    ensureBuilding setting update = (.ok (), update) := by
  show (match update.phase with
    | .building => pure ()
    | .finalized => throw (.finalized setting) : Attempt Update Unit) update = _
  rw [phase]
  rfl

theorem ensureBuilding_of_finalized (phase : update.phase = .finalized) (setting : Setting) :
    ensureBuilding setting update = (.error (.finalized setting), update) := by
  show (match update.phase with
    | .building => pure ()
    | .finalized => throw (.finalized setting) : Attempt Update Unit) update = _
  rw [phase]
  rfl

theorem settles_whileBuilding {attempt : Attempt Update Unit} {change : Except Refusal Update}
    (h : attempt.Settles update change) (setting : Setting) :
    Attempt.Settles (do ensureBuilding setting; attempt) update
      (update.whileBuilding setting change) := by
  cases phase : update.phase with
  | building =>
      rw [whileBuilding, phase]
      have passes := ensureBuilding_of_building phase setting
      cases change with
      | ok changed => exact (Attempt.bind_of_ok passes).trans h
      | error refusal => exact (Attempt.bind_of_ok passes).trans h
  | finalized =>
      rw [whileBuilding, phase]
      exact Attempt.bind_of_error (ensureBuilding_of_finalized phase setting)

theorem step_table (world : World) (update : Update) (name : String) :
    update.step world (.table name) = ItemStore.Call.change update
      (update.whileBuilding .table ((Address.table name).map fun table => { update with table })) :=
  ItemStore.Call.take_eq_change (settles_whileBuilding (Attempt.settles_checked _ _ update) .table)

theorem step_key (world : World) (update : Update) (pairs : List (String × Value)) :
    update.step world (.key pairs) = ItemStore.Call.change update
      (update.whileBuilding .key ((Address.key pairs).map fun key => { update with key })) :=
  ItemStore.Call.take_eq_change (settles_whileBuilding (Attempt.settles_checked _ _ update) .key)

theorem step_mark (world : World) (update : Update) (attrs : List String) :
    update.step world (.mark attrs) = ItemStore.Call.change update
      (update.whileBuilding .mark (.ok { update with marked := update.marked.addAll attrs })) :=
  ItemStore.Call.take_eq_change (settles_whileBuilding (Attempt.settles_modify _ update) .mark)

theorem step_disableStamp (world : World) (update : Update) (audit : Audit) :
    update.step world (.disableStamp audit) = ItemStore.Call.change update
      (update.whileBuilding (.disableStamp audit)
        (.ok (update.withPlan audit { update.plan audit with enabled := false }))) :=
  ItemStore.Call.take_eq_change
    (settles_whileBuilding (Attempt.settles_modify _ update) (.disableStamp audit))

theorem step_stamp (world : World) (update : Update) (audit : Audit) (stamp : Stamp) :
    update.step world (.stamp audit stamp) = ItemStore.Call.change update
      (update.whileBuilding (.stamp audit)
        ((stamp.checked audit).map fun text => update.withPlan audit ⟨true, some text⟩)) :=
  ItemStore.Call.take_eq_change
    (settles_whileBuilding (Attempt.settles_checked _ _ update) (.stamp audit))

theorem step_mergeDocument (world : World) (update : Update)
    (document : Except Json.WriteError Json) :
    update.step world (.mergeDocument document) = ItemStore.Call.change update
      ((Payload.ofDocument document).map (update.merge world.clock)) :=
  ItemStore.Call.take_eq_change (Attempt.settles_checked _ _ update)

theorem step_condition (world : World) (update : Update) (expression : String)
    (connective : Expression.Connective) :
    update.step world (.condition expression connective) = ItemStore.Call.change update
      (if Text.isBlank expression then .error .blankCondition
      else .ok { update with
        condition := some (Expression.joinCondition update.condition expression connective) }) := by
  refine ItemStore.Call.take_eq_change ?_
  unfold addCondition
  split
  · exact Attempt.bind_of_error (Attempt.throw_apply _ update)
  · exact Attempt.settles_modify _ update

end Update

/-! ### The calls to a read in one mode -/

namespace SingleRead

theorem step_table (client : Client) (read : SingleRead) (name : String) :
    read.step client (.table name) =
      Call.change read ((Address.table name).map fun table => { read with table }) :=
  Call.take_eq_change (Attempt.settles_checked _ _ read)

theorem step_key (client : Client) (read : SingleRead) (pairs : List (String × Value)) :
    read.step client (.key pairs) =
      Call.change read ((Address.key pairs).map fun key => { read with target := key }) :=
  Call.take_eq_change (Attempt.settles_checked _ _ read)

end SingleRead

namespace BatchRead

theorem step_table (client : Client) (read : BatchRead) (name : String) :
    read.step client (.table name) = Call.change read (.error .tableFixed) :=
  Call.take_eq_change (Attempt.settles_throw _ read)

theorem step_keys (client : Client) (read : BatchRead) (keys : List (List (String × Value))) :
    read.step client (.keys keys) =
      Call.change read ((Address.keys keys).map fun items => { read with target := items }) :=
  Call.take_eq_change (Attempt.settles_checked _ _ read)

end BatchRead

end ItemStore
