import ItemStore.Call
import ItemStore.Read.Basic

/-!
# ItemStore.Read.Batch

Reads of several items of one table by their keys. The table of such a read is fixed from the start.
-/

namespace ItemStore

/-- A read of several items under construction. -/
abbrev BatchRead := Read (List Item)

namespace BatchRead

/-- A read of the items with some keys. Missing keys are found before a blank table name. -/
def start (settings : Settings) (table : String) (keys : List (List (String × Value))) :
    Except Refusal BatchRead := do
  let keys ← Address.keys keys
  Read.start settings table keys

/-- Reads from another table, which is always refused. -/
def setTable (_ : String) : Attempt BatchRead Unit := throw .tableFixed

/-- Reads other items. -/
def setKeys (keys : List (List (String × Value))) : Attempt BatchRead Unit := do
  let items ← Address.keys keys
  modify fun read => { read with target := items }

/-- The request as it stands. -/
def request (read : BatchRead) : BatchGetRequest where
  tables := .singleton read.table
    { keys := read.target
      projection := read.projection.expression?
      names := read.projection.names
      consistentRead := read.consistentRead }

/-- The calls. -/
inductive Call
  /-- Says what the answer is to be like. -/
  | shape (shaping : Read.Shaping)
  /-- Reads from another table, which is always refused. -/
  | table (name : String)
  /-- Reads other items. -/
  | keys (keys : List (List (String × Value)))
  /-- Builds the request. -/
  | request
  /-- Builds the request and sends it. -/
  | execute
deriving DecidableEq

/-- What a call comes back with. -/
abbrev Result := ItemStore.Call.Result BatchGetRequest BatchGetResponse

/-- Takes a call; requests are sent through the client. -/
def step (client : Client) (read : BatchRead) : Call → Result × BatchRead
  | .shape shaping => (.done, read.shape shaping)
  | .table name => ItemStore.Call.take read (setTable name)
  | .keys keys => ItemStore.Call.take read (setKeys keys)
  | .request => (.request read.request, read)
  | .execute => (ItemStore.Call.answered (client.batchGet.send read.request), read)

/-- Takes calls one after the other, each with the client that it meets. -/
def run : BatchRead → List (Client × Call) → List Result × BatchRead :=
  ItemStore.Call.run fun read (client, call) => read.step client call

end BatchRead

end ItemStore
