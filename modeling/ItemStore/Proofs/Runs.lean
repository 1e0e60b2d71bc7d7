import Mathlib
import ItemStore.Call

/-!
# ItemStore.Proofs.Runs

Runs of calls, whatever the builder: what the calls of a run find, and what all of them keep.

The calls of a run with the builders that they find say all there is to say about it (`found`). Its
results are the results of these calls (`results_run`), and what every call keeps is found by all of
them (`invariant_found`).
-/

namespace ItemStore

/-- The last thing that a list makes comes from its rest, or else from its head. -/
theorem getLast?_filterMap_cons {α β : Type} (f : α → Option β) (a : α) (rest : List α) :
    ((a :: rest).filterMap f).getLast? = (rest.filterMap f).getLast?.or (f a) := by
  cases is : f a with
  | none => simp [is]
  | some b =>
      rw [List.filterMap_cons_some is, List.getLast?_cons]
      cases (rest.filterMap f).getLast? <;> rfl

namespace Call

universe u v w

section Run

variable {σ : Type u} {ι : Type v} {r : Type w} {step : σ → ι → r × σ} {P : σ → Prop} {builder : σ}

/-- The calls of a run, each with the builder that it finds. -/
def found (step : σ → ι → r × σ) (builder : σ) : List ι → List (σ × ι)
  | [] => []
  | call :: rest => (builder, call) :: found step (step builder call).2 rest

/-- The results of a run are those of its calls, each on the builder that it finds. -/
theorem results_run (step : σ → ι → r × σ) (builder : σ) (calls : List ι) :
    (run step builder calls).1 =
      (found step builder calls).map fun here => (step here.1 here.2).1 := by
  induction calls generalizing builder with
  | nil => rfl
  | cons call rest ih => simp [found, ih]

/-- What every call keeps, all calls of a run find. -/
theorem invariant_found (keeps : ∀ builder call, P builder → P (step builder call).2)
    (start : P builder) (calls : List ι) : ∀ here ∈ found step builder calls, P here.1 := by
  induction calls generalizing builder with
  | nil => simp [found]
  | cons call rest ih =>
      intro here mem
      rcases List.mem_cons.1 mem with first | later
      · rw [first]
        exact start
      · exact ih (keeps builder call start) here later

/-- What every call comes back with as long as an invariant holds, all calls of a run do. -/
theorem forall_results {Q : r → Prop} (keeps : ∀ builder call, P builder → P (step builder call).2)
    (gives : ∀ builder call, P builder → Q (step builder call).1) (start : P builder)
    (calls : List ι) : ∀ result ∈ (run step builder calls).1, Q result := by
  intro result mem
  rw [results_run] at mem
  obtain ⟨here, found, is⟩ := List.mem_map.1 mem
  rw [← is]
  exact gives _ _ (invariant_found keeps start calls here found)

/-- What every call keeps, a run keeps. -/
theorem invariant_run (keeps : ∀ builder call, P builder → P (step builder call).2)
    (start : P builder) (calls : List ι) : P (run step builder calls).2 := by
  induction calls generalizing builder with
  | nil => exact start
  | cons call rest ih => exact ih (keeps builder call start)

end Run

end Call

end ItemStore
