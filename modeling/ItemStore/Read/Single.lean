import ItemStore.Call
import ItemStore.Read.Basic

/-!
# ItemStore.Read.Single

Reads of one item by its key.
-/

namespace ItemStore

/-- A read of one item under construction. -/
abbrev SingleRead := Read Item

namespace SingleRead

/-- A read of the item with a key. A missing key is found before a blank table name. -/
def start (settings : Settings) (table : String) (key : List (String × Value)) :
    Except Refusal SingleRead := do
  let key ← Address.key key
  Read.start settings table key

/-- Reads from another table. -/
def setTable (name : String) : Attempt SingleRead Unit := do
  let table ← Address.table name
  modify fun read => { read with table }

/-- Reads another item. -/
def setKey (pairs : List (String × Value)) : Attempt SingleRead Unit := do
  let key ← Address.key pairs
  modify fun read => { read with target := key }

/-- The request as it stands. -/
def request (read : SingleRead) : GetRequest where
  table := read.table
  key := read.target
  projection := read.projection.expression?
  names := read.projection.names
  consistentRead := read.consistentRead

/-- The calls. -/
inductive Call
  /-- Says what the answer is to be like. -/
  | shape (shaping : Read.Shaping)
  /-- Reads from another table. -/
  | table (name : String)
  /-- Reads another item. -/
  | key (pairs : List (String × Value))
  /-- Builds the request. -/
  | request
  /-- Builds the request and sends it. -/
  | execute
deriving DecidableEq

/-- What a call comes back with. -/
abbrev Result := ItemStore.Call.Result GetRequest GetResponse

/-- Takes a call; requests are sent through the client. -/
def step (client : Client) (read : SingleRead) : Call → Result × SingleRead
  | .shape shaping => (.done, read.shape shaping)
  | .table name => ItemStore.Call.take read (setTable name)
  | .key pairs => ItemStore.Call.take read (setKey pairs)
  | .request => (.request read.request, read)
  | .execute => (ItemStore.Call.answered (client.get.send read.request), read)

/-- Takes calls one after the other, each with the client that it meets. -/
def run : SingleRead → List (Client × Call) → List Result × SingleRead :=
  ItemStore.Call.run fun read (client, call) => read.step client call

end SingleRead

end ItemStore
