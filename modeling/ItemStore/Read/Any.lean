import ItemStore.Read.Batch
import ItemStore.Read.Single

/-!
# ItemStore.Read.Any

Reads whose mode is known only when they run: aimed at one key or at a list of keys, by the shape of
what they are started with.

Such a read takes the calls of both modes and hands those of its own mode on. It refuses the calls
of the other mode before it looks at what they are given.
-/

namespace ItemStore

/-- One key, or a list of them, each as pairs. -/
inductive KeySelection
  | one (key : List (String × Value))
  | many (keys : List (List (String × Value)))
deriving DecidableEq

/-- A read of either mode under construction. -/
inductive AnyRead
  | single (read : SingleRead)
  | batch (read : BatchRead)
deriving DecidableEq

namespace AnyRead

/-- A read of what the selection says, in its mode. -/
def start (settings : Settings) (table : String) : KeySelection → Except Refusal AnyRead
  | .one key => (SingleRead.start settings table key).map .single
  | .many keys => (BatchRead.start settings table keys).map .batch

/-- The mode. -/
def mode : AnyRead → ReadMode
  | .single _ => .single
  | .batch _ => .batch

/-- The request as it stands. -/
def request : AnyRead → Request
  | .single read => .get read.request
  | .batch read => .batchGet read.request

/-- The calls. -/
inductive Call
  /-- Says what the answer is to be like. -/
  | shape (shaping : Read.Shaping)
  /-- Reads from another table. -/
  | table (name : String)
  /-- Reads another item. -/
  | key (pairs : List (String × Value))
  /-- Reads other items. -/
  | keys (keys : List (List (String × Value)))
  /-- Builds the request of a read of one item. -/
  | itemRequest
  /-- Builds the request of a read of several items. -/
  | batchRequest
  /-- Asks for the mode. -/
  | mode
  /-- Gives out the read of one item. -/
  | intoSingle
  /-- Gives out the read of several items. -/
  | intoBatch
deriving DecidableEq

/-- What a call comes back with. -/
inductive Result
  /-- Nothing but the changed read. -/
  | done
  | mode (mode : ReadMode)
  /-- The request of a read of one item. -/
  | itemRequest (request : GetRequest)
  /-- The request of a read of several items. -/
  | batchRequest (request : BatchGetRequest)
  /-- The read of one item. -/
  | single (read : SingleRead)
  /-- The read of several items. -/
  | batch (read : BatchRead)
  | refused (refusal : Refusal)
deriving DecidableEq

/-- Takes a call that comes to something, or is refused. -/
def take {α : Type} (told : α → Result) (read : AnyRead) (attempt : Attempt AnyRead α) :
    Result × AnyRead :=
  match attempt read with
  | (.ok a, read) => (told a, read)
  | (.error refusal, read) => (.refused refusal, read)

/-- Attempts on a read of one item what its mode has a call for. -/
def onSingle {α : Type} (call : ModeCall) (attempt : Attempt SingleRead α) : Attempt AnyRead α
  | .single inner => attempt.within .single inner
  | .batch inner => (.error (.wrongMode .batch call), .batch inner)

/-- Attempts on a read of several items what its mode has a call for. -/
def onBatch {α : Type} (call : ModeCall) (attempt : Attempt BatchRead α) : Attempt AnyRead α
  | .single inner => (.error (.wrongMode .single call), .single inner)
  | .batch inner => attempt.within .batch inner

/-- The read with what the answer is to be like. -/
def shape (read : AnyRead) (shaping : Read.Shaping) : AnyRead :=
  match read with
  | .single inner => .single (inner.shape shaping)
  | .batch inner => .batch (inner.shape shaping)

/-- Reads from another table. -/
def setTable (name : String) : Attempt AnyRead Unit
  | .single inner => (SingleRead.setTable name).within .single inner
  | .batch inner => (BatchRead.setTable name).within .batch inner

/-- Takes a call. -/
def step (read : AnyRead) : Call → Result × AnyRead
  | .shape shaping => (.done, read.shape shaping)
  | .table name => read.take (fun _ => .done) (setTable name)
  | .key pairs => read.take (fun _ => .done) (onSingle .key (SingleRead.setKey pairs))
  | .keys keys => read.take (fun _ => .done) (onBatch .keys (BatchRead.setKeys keys))
  | .itemRequest =>
      read.take .itemRequest (onSingle .itemRequest (return SingleRead.request (← get)))
  | .batchRequest =>
      read.take .batchRequest (onBatch .batchRequest (return BatchRead.request (← get)))
  | .mode => (.mode read.mode, read)
  | .intoSingle => read.take .single (onSingle .intoSingle get)
  | .intoBatch => read.take .batch (onBatch .intoBatch get)

/-- Takes calls one after the other. -/
def run : AnyRead → List Call → List Result × AnyRead := ItemStore.Call.run step

end AnyRead

end ItemStore
