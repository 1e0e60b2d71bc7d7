import Mathlib
import ItemStore.Read.Any

/-!
# ItemStore.Proofs.Read.Modes

Reads of either mode do what the reads of their own mode do.

A read whose mode is known only when it runs wraps a read of that mode (`Side.wrap`). One call on
the wrapped read is one call on the read in it, is refused, or leaves it alone (`Side.Delegates`),
so a run of calls is the run of those that the mode has (`Side.Delegates.run`).
-/

namespace ItemStore.AnyRead

/-! ### The two sides -/

/-- The reads of one mode, and how they stand among the reads of either mode. -/
structure Side (κ ι ρ α : Type) where
  mode : ReadMode
  /-- How the mode is called. -/
  name : String
  /-- The read as one of either mode. -/
  wrap : Read κ → AnyRead
  /-- Takes a call of this mode. -/
  step : Client → Read κ → ι → ItemStore.Call.Result ρ α × Read κ
  /-- The call as this mode has it, if it has it. -/
  own? : Call → Option ι
  /-- How a call is called that only the other mode has. -/
  foreign? : Call → Option String
  /-- The result of a call for a request. -/
  request : ρ → Result
  /-- The call that gives out the read. -/
  into : Call
  /-- The result of that call. -/
  given : Read κ → Result

namespace Side

/-- The reads of one item. -/
def single : Side Item SingleRead.Call GetRequest GetResponse where
  mode := .single
  name := "single"
  wrap := .single
  step := SingleRead.step
  own?
    | .shape shaping => some (.shape shaping)
    | .table name => some (.table name)
    | .key pairs => some (.key pairs)
    | .itemRequest => some .request
    | _ => none
  foreign?
    | .keys _ => some "keys"
    | .batchRequest => some "get_batch_params"
    | .intoBatch => some "into_batch"
    | _ => none
  request := .itemRequest
  into := .intoSingle
  given := .single

/-- The reads of several items. -/
def batch : Side (List Item) BatchRead.Call BatchGetRequest BatchGetResponse where
  mode := .batch
  name := "batch"
  wrap := .batch
  step := BatchRead.step
  own?
    | .shape shaping => some (.shape shaping)
    | .table name => some (.table name)
    | .keys keys => some (.keys keys)
    | .batchRequest => some .request
    | _ => none
  foreign?
    | .key _ => some "key"
    | .itemRequest => some "get_item_params"
    | .intoSingle => some "into_single"
    | _ => none
  request := .batchRequest
  into := .intoBatch
  given := .batch

variable {κ ι ρ α : Type} {side : Side κ ι ρ α} {client : Client} {typed : Read κ}

/-- The result of a call of this mode as that of a call of either mode, which sends no requests. -/
def result? (side : Side κ ι ρ α) : ItemStore.Call.Result ρ α → Option Result
  | .done => some .done
  | .request built => some (side.request built)
  | .answer _ _ => none
  | .refused refusal => some (.refused refusal)

/-- The read of this mode behind the calls of a run that this mode has. -/
def after (side : Side κ ι ρ α) (client : Client) (typed : Read κ) (calls : List Call) : Read κ :=
  (ItemStore.Call.run (side.step client) typed (calls.filterMap side.own?)).2

/-! ### One call -/

/-- Whether a refusal tells that reads of a mode do not have a method. -/
structure IsMismatch (mode method : String) (refusal : Refusal) : Prop where
  kind : refusal.kind = .modeMismatch
  message : refusal.message = "Cannot use ." ++ method ++ "() on a " ++ mode ++ " get request."

/--
What a call does on a wrapped read: what it does on the read itself if the mode has it; else
nothing, and it is refused if the other mode has it.
-/
structure Delegates (side : Side κ ι ρ α) (client : Client) (typed : Read κ) (call : Call) :
    Prop where
  /-- The mode is that of the side. -/
  mode : (side.wrap typed).mode = side.mode
  /-- A call of this mode has its result and leads to its read. -/
  own : ∀ {own}, side.own? call = some own →
    side.result? (side.step client typed own).1 = some ((side.wrap typed).step call).1 ∧
      ((side.wrap typed).step call).2 = side.wrap (side.step client typed own).2
  /-- A call of the other mode is refused and changes nothing. -/
  foreign : ∀ {method}, side.foreign? call = some method →
    ∃ refusal, IsMismatch side.name method refusal ∧
      (side.wrap typed).step call = (.refused refusal, side.wrap typed)
  /-- A call that this mode does not have changes nothing. -/
  other : side.own? call = none → ((side.wrap typed).step call).2 = side.wrap typed
  /-- The read can be had back. -/
  into : (side.wrap typed).step side.into = (side.given typed, side.wrap typed)

/-- What is attempted on a wrapped read is attempted on the read in it. -/
theorem result?_take (side : Side κ ι ρ α) (attempt : Attempt (Read κ) Unit)
    {lifted : Attempt AnyRead Unit} (h : lifted (side.wrap typed) = attempt.within side.wrap typed) :
    side.result? (ItemStore.Call.take typed attempt).1 =
        some (take (fun _ => .done) (side.wrap typed) lifted).1 ∧
      (take (fun _ => .done) (side.wrap typed) lifted).2 =
        side.wrap (ItemStore.Call.take (ρ := ρ) (α := α) typed attempt).2 := by
  unfold take ItemStore.Call.take
  rw [h, Attempt.within]
  rcases attempt typed with ⟨_ | _, _⟩
  · exact ⟨rfl, rfl⟩
  · exact ⟨rfl, rfl⟩

theorem delegates_single (client : Client) (typed : SingleRead) (call : Call) :
    single.Delegates client typed call where
  mode := rfl
  own := by
    intro own has
    cases call with
    | table name =>
        cases has
        exact result?_take single (SingleRead.setTable name) rfl
    | key pairs =>
        cases has
        exact result?_take single (SingleRead.setKey pairs) rfl
    | shape _ | itemRequest => cases has; exact ⟨rfl, rfl⟩
    | _ => cases has
  foreign := by
    intro foreign has
    cases call with
    | keys _ | batchRequest | intoBatch =>
        cases has
        exact ⟨_, ⟨rfl, rfl⟩, rfl⟩
    | _ => cases has
  other := by
    intro none
    cases call with
    | shape _ | table _ | key _ | itemRequest => cases none
    | _ => rfl
  into := rfl

theorem delegates_batch (client : Client) (typed : BatchRead) (call : Call) :
    batch.Delegates client typed call where
  mode := rfl
  own := by
    intro own has
    cases call with
    | table name =>
        cases has
        exact result?_take batch (BatchRead.setTable name) rfl
    | keys keys =>
        cases has
        exact result?_take batch (BatchRead.setKeys keys) rfl
    | shape _ | batchRequest => cases has; exact ⟨rfl, rfl⟩
    | _ => cases has
  foreign := by
    intro foreign has
    cases call with
    | key _ | itemRequest | intoSingle =>
        cases has
        exact ⟨_, ⟨rfl, rfl⟩, rfl⟩
    | _ => cases has
  other := by
    intro none
    cases call with
    | shape _ | table _ | keys _ | batchRequest => cases none
    | _ => rfl
  into := rfl

/-! ### Runs -/

/-- A run on a wrapped read leads to the read behind the calls that its mode has. -/
theorem Delegates.run (h : ∀ typed call, side.Delegates client typed call) (typed : Read κ)
    (calls : List Call) :
    ((side.wrap typed).run calls).2 = side.wrap (side.after client typed calls) := by
  induction calls generalizing typed with
  | nil => rfl
  | cons call rest ih =>
      have others : ((side.wrap typed).run (call :: rest)).2 =
          (((side.wrap typed).step call).2.run rest).2 := rfl
      cases has : side.own? call with
      | none =>
          rw [others, (h typed call).other has, ih, after, after, List.filterMap_cons_none has]
      | some own =>
          rw [others, ((h typed call).own has).2, ih, after, after,
            List.filterMap_cons_some has, ItemStore.Call.run_cons]

/--
Whether a read of either mode starts as a read of this mode does, and does the same in every run of
calls: behind the run it wraps the read behind it, on which it hands on the next call.
-/
def Refines (side : Side κ ι ρ α) (client : Client) :
    Except Refusal AnyRead → Except Refusal (Read κ) → Prop
  | .ok read, .ok typed => ∀ calls next,
      (read.run calls).2 = side.wrap (side.after client typed calls) ∧
        side.Delegates client (side.after client typed calls) next
  | .error refusal, .error other => refusal = other
  | _, _ => False

theorem Delegates.refines (h : ∀ typed call, side.Delegates client typed call)
    (started : Except Refusal (Read κ)) : side.Refines client (started.map side.wrap) started := by
  cases started with
  | ok typed => exact fun calls next => ⟨Delegates.run h typed calls, h _ next⟩
  | error refusal => rfl

end Side

/--
A read of either mode starts exactly when the read of its mode does, which the shape of the keys
picks, and is refused for the same reason. In every run of calls it keeps the mode and does what the
read of that mode does; calls of the other mode are refused, whatever they are given, and change
nothing.
-/
theorem refines_typed (client : Client) (settings : Settings) (table : String) :
    (∀ key, Side.single.Refines client (start settings table (.one key))
        (SingleRead.start settings table key)) ∧
      ∀ keys, Side.batch.Refines client (start settings table (.many keys))
        (BatchRead.start settings table keys) :=
  ⟨fun _ => Side.Delegates.refines (Side.delegates_single client) _,
    fun _ => Side.Delegates.refines (Side.delegates_batch client) _⟩

theorem refines_typed_of_keys :
    ∃ read typed, start {} "t" (.many [[("id", .text "1")]]) = .ok read ∧
      BatchRead.start {} "t" [[("id", .text "1")]] = .ok typed ∧
      ∀ calls next, (read.run calls).2 = .batch (Side.batch.after .echo typed calls) ∧
        Side.batch.Delegates .echo (Side.batch.after .echo typed calls) next :=
  ⟨_, _, rfl, rfl, (refines_typed .echo {} "t").2 [[("id", .text "1")]]⟩

end ItemStore.AnyRead
