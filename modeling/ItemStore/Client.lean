import ItemStore.Failure
import ItemStore.Message.Request
import ItemStore.Message.Response

/-!
# ItemStore.Client

Whatever carries requests to a store and brings back its answers. Builders know no more about it
than this, and hand on what it says as it is.

Design points:

* What is answered may depend on all that was asked before, so it matters how often a request is
  sent.
* Sending notes the request. What somebody sends can be told from the notes, whatever the answers.
-/

namespace ItemStore

/-- What a request of one kind comes back with. -/
abbrev Answer (α : Type) := Except Failure α

instance {α : Type} [DecidableEq α] : DecidableEq (Answer α)
  | .ok a, .ok b => decidable_of_iff (a = b) (by simp)
  | .error a, .error b => decidable_of_iff (a = b) (by simp)
  | .ok _, .error _ => .isFalse (by simp)
  | .error _, .ok _ => .isFalse (by simp)

/-- What comes back for a request, if others were sent the same way before, in this order. -/
abbrev Channel (ρ β : Type) := (earlier : List ρ) → ρ → β

/-- Something that is done with a channel at hand; what is sent is noted behind what was before. -/
abbrev Sending (ρ β : Type) := StateM (List ρ) β

namespace Channel

variable {ρ π β : Type}

/-- Sends a request. -/
def send (channel : Channel ρ β) (request : ρ) : Sending ρ β := do
  let earlier ← get
  set (earlier ++ [request])
  return channel earlier request

/-- The channel of somebody who sends requests on in another form. -/
def through (forward : ρ → Sending π β) : Channel ρ β := fun earlier request =>
  let sent := earlier.foldl (fun sent request => (forward request sent).2) []
  (forward request sent).1

end Channel

/-- Carries requests of each kind to a store. -/
structure Client where
  /-- Reads one item. -/
  get : Channel GetRequest (Answer GetResponse)
  /-- Reads several items. -/
  batchGet : Channel BatchGetRequest (Answer BatchGetResponse)
  /-- Updates one item. -/
  update : Channel UpdateRequest (Answer UpdateResponse)

namespace Client

/-- A store in which every item is there and has no attributes besides those of its key. -/
def echo : Client where
  get _ request := .ok { item := some request.key }
  batchGet _ request := .ok { responses := request.tables.filterMap fun keys => some keys.keys }
  update _ request := .ok { item := request.key }

/-- A store that fails every request in the same way. -/
def failing (failure : Failure) : Client where
  get _ _ := .error failure
  batchGet _ _ := .error failure
  update _ _ := .error failure

end Client

end ItemStore
