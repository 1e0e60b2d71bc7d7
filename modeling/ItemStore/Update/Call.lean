import ItemStore.Call
import ItemStore.Update.Basic

/-!
# ItemStore.Update.Call

The calls to an update under construction, and runs of them.

A call finds the world in some state: the instants that it reads off the clock, and the client that
it sends requests through. Both may be others for each call of a run.
-/

namespace ItemStore.Update

open Expression (ClauseKind Connective)

/-- The calls. -/
inductive Call
  /-- Updates an item in another table. -/
  | table (name : String)
  /-- Updates another item. -/
  | key (pairs : List (String × Value))
  /-- Marks attributes whose empty values become null. -/
  | mark (attrs : List String)
  /-- Leaves a timestamp out. -/
  | disableStamp (audit : Audit)
  /-- Writes a timestamp as it is given. -/
  | stamp (audit : Audit) (stamp : Stamp)
  /-- Locks the update on a revision, if there is one. -/
  | lock (revision : Option Nat)
  /-- Takes a payload. -/
  | merge (payload : Payload)
  /-- Takes a payload that comes as a document, or the reason why it could not be written as one. -/
  | mergeDocument (document : Except Json.WriteError Json)
  /-- Adds a fragment to a clause. -/
  | fragment (kind : ClauseKind) (fragment : String)
  /-- Adds fragments of removed attributes. -/
  | removeAll (fragments : List String)
  /-- Says what name placeholders stand for. -/
  | names (pairs : List (String × String))
  /-- Says what value placeholders stand for. -/
  | values (pairs : List (String × Value))
  /-- Joins an expression to the condition. -/
  | condition (expression : String) (connective : Connective := default)
  /-- Sets which attributes are returned. -/
  | returnValues (choice : ReturnValues)
  /-- Sets whether the size of the item's collection is told. -/
  | metrics (choice : MetricsDetail)
  /-- Sets in which detail the consumed capacity is told. -/
  | capacity (choice : CapacityDetail)
  /-- Builds the request. -/
  | request
  /-- Builds the request and sends it. -/
  | execute

/-- What a call finds. -/
structure World where
  /-- The instants it reads off the clock. -/
  clock : Clock
  /-- The client it sends requests through. -/
  client : Client

instance : Inhabited World := ⟨⟨fun _ => default, .echo⟩⟩

/-- What a call comes back with. -/
abbrev Result := ItemStore.Call.Result UpdateRequest UpdateResponse

/-- Takes a call. -/
def step (world : World) (update : Update) : Call → Result × Update
  | .table name => ItemStore.Call.take update (setTable name)
  | .key pairs => ItemStore.Call.take update (setKey pairs)
  | .mark attrs => ItemStore.Call.take update (mark attrs)
  | .disableStamp audit => ItemStore.Call.take update (disableStamp audit)
  | .stamp audit stamp => ItemStore.Call.take update (setStamp audit stamp)
  | .lock none => (.done, update)
  | .lock (some revision) => (.done, update.lock revision)
  | .merge payload => (.done, update.merge world.clock payload)
  | .mergeDocument document => ItemStore.Call.take update (mergeDocument world.clock document)
  | .fragment kind fragment => (.done, update.addFragment kind fragment)
  | .removeAll fragments =>
      (.done, fragments.foldl (fun update fragment => update.addFragment .remove fragment) update)
  | .names pairs => (.done, update.addNames pairs)
  | .values pairs => (.done, update.addValues pairs)
  | .condition expression connective =>
      ItemStore.Call.take update (addCondition expression connective)
  | .returnValues choice => (.done, { update with returnValues := choice })
  | .metrics choice => (.done, { update with metrics := some choice })
  | .capacity choice => (.done, { update with capacity := some choice })
  | .request => (.request update.request, update.finalize)
  | .execute =>
      (ItemStore.Call.answered (world.client.update.send update.request), update.finalize)

/-- Takes calls one after the other, each in the world that it finds. -/
def run : Update → List (World × Call) → List Result × Update :=
  ItemStore.Call.run fun update (world, call) => update.step world call

end ItemStore.Update
