import ItemStore.Attempt
import ItemStore.Client

/-!
# ItemStore.Call

Calls to a builder: what they come back with, and runs of them.

A builder takes one call after the other, whatever the earlier ones came back with. So a run is
total: it has a result for each call and a builder at its end.
-/

namespace ItemStore.Call

universe u v w

variable {σ ρ α : Type}

/-- What a call comes back with, for a builder of requests `ρ` that are answered by `α`. -/
inductive Result (ρ α : Type)
  /-- Nothing but the changed builder. -/
  | done
  | request (request : ρ)
  /-- The requests that were sent, in order, and what came back in the end. -/
  | answer (sent : List ρ) (answer : Answer α)
  | refused (refusal : Refusal)
deriving DecidableEq

/-- The requests that a call sent, in order. -/
def Result.sent : Result ρ α → List ρ
  | .answer sent _ => sent
  | _ => []

/-- The request that a call built, if it built one: the one it gave out, or sent last. -/
def Result.built? : Result ρ α → Option ρ
  | .request built => some built
  | .answer sent _ => sent.getLast?
  | _ => none

/-- Takes a call that changes the builder, or refuses to. -/
def take (builder : σ) (attempt : Attempt σ Unit) : Result ρ α × σ :=
  match attempt builder with
  | (.ok (), builder) => (.done, builder)
  | (.error refusal, builder) => (.refused refusal, builder)

/-- What a call comes back with that sends requests. -/
def answered (sending : Sending ρ (Answer α)) : Result ρ α :=
  let (answer, sent) := sending []
  .answer sent answer

/-- Takes calls one after the other: the result of each, and the builder at the end. -/
def run {σ : Type u} {ι : Type v} {r : Type w} (step : σ → ι → r × σ) (builder : σ) :
    List ι → List r × σ
  | [] => ([], builder)
  | call :: rest =>
      let (result, builder) := step builder call
      let (results, builder) := run step builder rest
      (result :: results, builder)

section Run

variable {σ : Type u} {ι : Type v} {r : Type w}

@[simp] theorem run_nil (step : σ → ι → r × σ) (builder : σ) :
    run step builder [] = ([], builder) :=
  rfl

@[simp] theorem run_cons (step : σ → ι → r × σ) (builder : σ) (call : ι) (rest : List ι) :
    run step builder (call :: rest) =
      ((step builder call).1 :: (run step (step builder call).2 rest).1,
        (run step (step builder call).2 rest).2) :=
  rfl

/-- A run of some calls and then others goes on from where the first ones lead. -/
theorem run_append (step : σ → ι → r × σ) (builder : σ) (calls others : List ι) :
    run step builder (calls ++ others) =
      ((run step builder calls).1 ++ (run step (run step builder calls).2 others).1,
        (run step (run step builder calls).2 others).2) := by
  induction calls generalizing builder with
  | nil => rfl
  | cons call rest ih => simp [ih]

end Run

end ItemStore.Call
