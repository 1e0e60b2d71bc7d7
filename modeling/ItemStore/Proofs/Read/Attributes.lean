import Mathlib
import ItemStore.Proofs.Attempts
import ItemStore.Proofs.Expression.Projection
import ItemStore.Proofs.Read.Modes
import ItemStore.Proofs.Runs

/-!
# ItemStore.Proofs.Read.Attributes

Which attributes reads ask for, behind any run of calls.

A call that shapes the answer makes requests of the projection, and no other call touches it. So
behind a run the projection is what all the requests of the run make of the empty one
(`projection_run`), and says what they ask for.
-/

namespace ItemStore

open Expression (Projection)
open Expression.Projection (Faithful)

/-! ### Calls -/

/-- The requests that a call makes of the projection. -/
def Read.Shaping.requests : Read.Shaping → List Projection.Request
  | .attr name => [.literal name]
  | .attrs names => names.map .placeholder
  | .strong => []

/-- The requests that a call makes of the projection. -/
def SingleRead.Call.requests : SingleRead.Call → List Projection.Request
  | .shape shaping => shaping.requests
  | _ => []

/-- The requests that a call makes of the projection. -/
def BatchRead.Call.requests : BatchRead.Call → List Projection.Request
  | .shape shaping => shaping.requests
  | _ => []

/-- The requests that a call makes of the projection. -/
def AnyRead.Call.requests : AnyRead.Call → List Projection.Request
  | .shape shaping => shaping.requests
  | _ => []

/-- The attributes that a read of either mode asks for. -/
def AnyRead.projection : AnyRead → Projection
  | .single read => read.projection
  | .batch read => read.projection

theorem Read.projection_shape {κ : Type} (read : Read κ) (shaping : Read.Shaping) :
    (read.shape shaping).projection = read.projection.pushAll shaping.requests := by
  cases shaping with
  | attr name => rfl
  | attrs names =>
      rw [Shaping.requests, Projection.pushAll, List.foldl_map]
      rfl
  | strong => rfl

/-- Changes of something else, made or refused, leave the projection as it is. -/
theorem Read.projection_change_map {κ ρ α β : Type} {read : Read κ} {result : Except Refusal β}
    {set : β → Read κ} (keeps : ∀ b, (set b).projection = read.projection) :
    (Call.change (ρ := ρ) (α := α) read (result.map set)).2.projection = read.projection :=
  Call.invariant_change (P := fun changed : Read κ => changed.projection = read.projection) rfl
    (Call.forall_map_eq_ok fun b _ => keeps b)

theorem SingleRead.projection_step (client : Client) (read : SingleRead) (call : Call) :
    (read.step client call).2.projection = read.projection.pushAll call.requests := by
  cases call with
  | shape shaping => exact Read.projection_shape read shaping
  | table name =>
      rw [step_table]
      exact Read.projection_change_map fun _ => rfl
  | key pairs =>
      rw [step_key]
      exact Read.projection_change_map fun _ => rfl
  | request => rfl
  | execute => rfl

theorem BatchRead.projection_step (client : Client) (read : BatchRead) (call : Call) :
    (read.step client call).2.projection = read.projection.pushAll call.requests := by
  cases call with
  | shape shaping => exact Read.projection_shape read shaping
  | table name => rfl
  | keys keys =>
      rw [step_keys]
      exact Read.projection_change_map fun _ => rfl
  | request => rfl
  | execute => rfl

theorem AnyRead.projection_step (read : AnyRead) (call : Call) :
    (read.step call).2.projection = read.projection.pushAll call.requests := by
  cases read with
  | single typed =>
      have delegates := Side.delegates_single .echo typed call
      cases call with
      | shape shaping => exact Read.projection_shape typed shaping
      | table name =>
          have same := congrArg AnyRead.projection (delegates.own rfl).2
          exact same.trans (SingleRead.projection_step .echo typed (.table name))
      | key pairs =>
          have same := congrArg AnyRead.projection (delegates.own rfl).2
          exact same.trans (SingleRead.projection_step .echo typed (.key pairs))
      | _ => rfl
  | batch typed =>
      have delegates := Side.delegates_batch .echo typed call
      cases call with
      | shape shaping => exact Read.projection_shape typed shaping
      | keys keys =>
          have same := congrArg AnyRead.projection (delegates.own rfl).2
          exact same.trans (BatchRead.projection_step .echo typed (.keys keys))
      | _ => rfl

/-! ### Runs -/

/-- What each call asks of a projection, a run of them asks one after the other. -/
theorem projection_run {σ ι r : Type} {step : σ → ι → r × σ} (projection : σ → Projection)
    {requests : ι → List Projection.Request}
    (each : ∀ builder call, projection (step builder call).2 =
      (projection builder).pushAll (requests call)) (builder : σ) (calls : List ι) :
    projection (Call.run step builder calls).2 =
      (projection builder).pushAll (calls.flatMap requests) := by
  induction calls generalizing builder with
  | nil => rfl
  | cons call rest ih =>
      rw [Call.run_cons, ih, each, List.flatMap_cons, Projection.pushAll, Projection.pushAll,
        Projection.pushAll, List.foldl_append]

theorem Read.projection_start {κ : Type} {settings : Settings} {table : String} {target : κ}
    {read : Read κ} (h : Read.start settings table target = .ok read) : read.projection = ∅ := by
  obtain ⟨name, -, made⟩ := Json.bind_eq_ok h
  cases made
  rfl

theorem SingleRead.projection_start {settings : Settings} {table : String}
    {key : List (String × Value)} {read : SingleRead}
    (h : SingleRead.start settings table key = .ok read) : read.projection = ∅ := by
  obtain ⟨key, -, made⟩ := Json.bind_eq_ok h
  exact Read.projection_start made

theorem BatchRead.projection_start {settings : Settings} {table : String}
    {keys : List (List (String × Value))} {read : BatchRead}
    (h : BatchRead.start settings table keys = .ok read) : read.projection = ∅ := by
  obtain ⟨keys, -, made⟩ := Json.bind_eq_ok h
  exact Read.projection_start made

theorem AnyRead.projection_start {settings : Settings} {table : String} {keys : KeySelection}
    {read : AnyRead} (h : AnyRead.start settings table keys = .ok read) : read.projection = ∅ := by
  cases keys with
  | one key =>
      obtain ⟨typed, started, rfl⟩ := Json.map_eq_ok h
      exact SingleRead.projection_start started
  | many keys =>
      obtain ⟨typed, started, rfl⟩ := Json.map_eq_ok h
      exact BatchRead.projection_start started

/--
Behind any requests a projection says what they ask for: each attribute whose name is not blank
once, in the order of the first requests, by its name if the first request is for that and it can be
written as it is, and else by a placeholder that stands for it. So does the projection of a read
behind any run of calls, whatever its mode.
-/
theorem faithful_run :
    (∀ requests, Faithful requests ((∅ : Projection).pushAll requests)) ∧
      (∀ settings table key read (calls : List (Client × SingleRead.Call)),
        SingleRead.start settings table key = .ok read →
          Faithful (calls.flatMap fun call => call.2.requests) (read.run calls).2.projection) ∧
      (∀ settings table keys read (calls : List (Client × BatchRead.Call)),
        BatchRead.start settings table keys = .ok read →
          Faithful (calls.flatMap fun call => call.2.requests) (read.run calls).2.projection) ∧
      ∀ settings table keys read (calls : List AnyRead.Call),
        AnyRead.start settings table keys = .ok read →
          Faithful (calls.flatMap AnyRead.Call.requests) (read.run calls).2.projection := by
  have faithful := Projection.faithful_pushAll
  refine ⟨faithful, ?_, ?_, ?_⟩
  · intro settings table key read calls started
    have behind := projection_run Read.projection
      (fun read call => SingleRead.projection_step call.1 read call.2) read calls
    rw [SingleRead.projection_start started] at behind
    rw [SingleRead.run, behind]
    exact faithful _
  · intro settings table keys read calls started
    have behind := projection_run Read.projection
      (fun read call => BatchRead.projection_step call.1 read call.2) read calls
    rw [BatchRead.projection_start started] at behind
    rw [BatchRead.run, behind]
    exact faithful _
  · intro settings table keys read calls started
    have behind := projection_run AnyRead.projection AnyRead.projection_step read calls
    rw [AnyRead.projection_start started] at behind
    rw [AnyRead.run, behind]
    exact faithful _

/-- Calls with names that look alike, a reserved word, a blank name and a repeated one. -/
def shapingCalls : List AnyRead.Call :=
  [.shape (.attr "a1"), .table " ", .shape (.attrs ["a-b", "", "a1", "a_b"]),
    .shape (.attr "status"), .intoSingle, .shape (.attr "a-b")]

theorem faithful_run_of_namesakes :
    ∃ read, AnyRead.start {} "t" (.many [[("id", .text "1")]]) = .ok read ∧
      (read.run shapingCalls).2.projection.texts = ["a1", "#a_b", "#a_b_1", "#status"] ∧
      Faithful (shapingCalls.flatMap AnyRead.Call.requests)
        (read.run shapingCalls).2.projection := by
  obtain ⟨-, -, -, any⟩ := faithful_run
  exact ⟨_, rfl, by decide +kernel, any {} "t" (.many [[("id", .text "1")]]) _ shapingCalls rfl⟩

end ItemStore
