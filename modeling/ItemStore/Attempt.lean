import ItemStore.Refusal

/-!
# ItemStore.Attempt

Attempts to change a builder.

An attempt goes step by step, as a program does, and leaves the builder as its last step did, also
where a later step refuses it. That what is refused changes nothing is no part of what an attempt
is: each operation has to see to it by checking what it is given before it writes.
-/

namespace ItemStore

/--
Something that is done to a builder and may be refused: what it comes to, and the builder that it
leaves in either case.
-/
abbrev Attempt (σ α : Type) := ExceptT Refusal (StateM σ) α

namespace Attempt

variable {σ τ α β : Type} {attempt : Attempt σ α} {next : α → Attempt σ β} {builder changed : σ}

/-- An attempt on a part of a builder that is all there is to it. -/
def within (wrap : τ → σ) (attempt : Attempt τ α) (part : τ) : Except Refusal α × σ :=
  let (result, part) := attempt part
  (result, wrap part)

/-! ### One step after the other -/

theorem throw_apply (refusal : Refusal) (builder : σ) :
    (throw refusal : Attempt σ α) builder = (.error refusal, builder) :=
  rfl

theorem modify_apply (change : σ → σ) (builder : σ) :
    (modify change : Attempt σ Unit) builder = (.ok (), change builder) :=
  rfl

theorem lift_apply (result : Except Refusal α) (builder : σ) :
    (liftM result : Attempt σ α) builder = (result, builder) :=
  rfl

theorem bind_of_ok {a : α} (first : attempt builder = (.ok a, changed)) :
    (attempt >>= next) builder = next a changed := by
  show (match attempt builder with | (result, builder) => ExceptT.bindCont next result builder) = _
  rw [first]
  rfl

theorem bind_of_error {refusal : Refusal} (first : attempt builder = (.error refusal, changed)) :
    (attempt >>= next) builder = (.error refusal, changed) := by
  show (match attempt builder with | (result, builder) => ExceptT.bindCont next result builder) = _
  rw [first]
  rfl

end Attempt

end ItemStore
