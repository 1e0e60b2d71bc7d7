import ItemStore.Message.Options
import ItemStore.Value.Wire

/-!
# ItemStore.Message.Request

The requests that the builders make: reading an item, reading several items, and updating an item.

Options that are absent and maps that are empty are left out of the written form, so a request says
only what was asked for.
-/

namespace ItemStore

open Json (Codec Field Fields Record)

/-- Reads one item. -/
structure GetRequest where
  table : String := ""
  /-- The key of the item. -/
  key : Item := ∅
  /-- The attributes to return; all if absent. -/
  projection : Option String := none
  /-- What the name placeholders stand for. -/
  names : NameMap String := ∅
  /-- Whether the read is strongly consistent. -/
  consistentRead : Option Bool := none
deriving DecidableEq, Inhabited

/-- The written form of `GetRequest`. -/
def GetRequest.record : Record GetRequest where
  name := "GetItemInput"
  types := [String, Item, Option String, NameMap String, Option Bool]
  fields :=
    .cons (.required "TableName" .text) <|
    .cons (.required "Key" Item.codec) <|
    .cons (.optional "ProjectionExpression" .text) <|
    .cons (.mapping "ExpressionAttributeNames" .text) <|
    .cons (.optional "ConsistentRead" .bool) .nil
  toRow r := (r.table, r.key, r.projection, r.names, r.consistentRead, ())
  ofRow
    | (table, key, projection, names, consistentRead, ()) =>
      { table, key, projection, names, consistentRead }

/-- The keys to read from one table, and how. -/
structure TableKeys where
  /-- The keys of the items. -/
  keys : List Item := []
  /-- The attributes to return; all if absent. -/
  projection : Option String := none
  /-- What the name placeholders stand for. -/
  names : NameMap String := ∅
  /-- Whether the read is strongly consistent. -/
  consistentRead : Option Bool := none
deriving DecidableEq, Inhabited

/-- The written form of `TableKeys`. -/
def TableKeys.record : Record TableKeys where
  name := "KeysAndAttributes"
  types := [List Item, Option String, NameMap String, Option Bool]
  fields :=
    .cons (.required "Keys" (.list Item.codec)) <|
    .cons (.optional "ProjectionExpression" .text) <|
    .cons (.mapping "ExpressionAttributeNames" .text) <|
    .cons (.optional "ConsistentRead" .bool) .nil
  toRow k := (k.keys, k.projection, k.names, k.consistentRead, ())
  ofRow
    | (keys, projection, names, consistentRead, ()) => { keys, projection, names, consistentRead }

/-- Reads several items, by table. -/
structure BatchGetRequest where
  /-- The keys to read from each table. -/
  tables : NameMap TableKeys := ∅
deriving DecidableEq, Inhabited

/-- The written form of `BatchGetRequest`. -/
def BatchGetRequest.record : Record BatchGetRequest where
  name := "BatchGetItemInput"
  types := [NameMap TableKeys]
  fields := .cons (.required "RequestItems" (.map TableKeys.record.codec)) .nil
  toRow r := (r.tables, ())
  ofRow | (tables, ()) => { tables }

/-- Updates one item, or creates it. -/
structure UpdateRequest where
  table : String := ""
  /-- The key of the item. -/
  key : Item := ∅
  /-- Which attributes to return. -/
  returnValues : ReturnValues := default
  /-- What to change. -/
  update : Option String := none
  /-- What must hold for the update to happen. -/
  condition : Option String := none
  /-- What the name placeholders stand for. -/
  names : NameMap String := ∅
  /-- What the value placeholders stand for. -/
  values : NameMap Value := ∅
  /-- In which detail to tell the consumed capacity. -/
  capacity : Option CapacityDetail := none
  /-- Whether to tell the size of the item's collection. -/
  metrics : Option MetricsDetail := none
deriving DecidableEq, Inhabited

/-- The written form of `UpdateRequest`. -/
def UpdateRequest.record : Record UpdateRequest where
  name := "UpdateItemInput"
  types := [String, Item, ReturnValues, Option String, Option String, NameMap String,
    NameMap Value, Option CapacityDetail, Option MetricsDetail]
  fields :=
    .cons (.required "TableName" .text) <|
    .cons (.required "Key" Item.codec) <|
    .cons (.defaulted "ReturnValues" ReturnValues.choices.codec default) <|
    .cons (.optional "UpdateExpression" .text) <|
    .cons (.optional "ConditionExpression" .text) <|
    .cons (.mapping "ExpressionAttributeNames" .text) <|
    .cons (.mapping "ExpressionAttributeValues" Value.codec) <|
    .cons (.optional "ReturnConsumedCapacity" CapacityDetail.choices.codec) <|
    .cons (.optional "ReturnItemCollectionMetrics" MetricsDetail.choices.codec) .nil
  toRow r :=
    (r.table, r.key, r.returnValues, r.update, r.condition, r.names, r.values, r.capacity,
      r.metrics, ())
  ofRow
    | (table, key, returnValues, update, condition, names, values, capacity, metrics, ()) =>
      { table, key, returnValues, update, condition, names, values, capacity, metrics }

/-- A request of any kind. -/
inductive Request
  | get (request : GetRequest)
  | batchGet (request : BatchGetRequest)
  | update (request : UpdateRequest)
deriving DecidableEq

/-- The kinds of request that a store serves. -/
inductive Operation
  | getItem
  | batchGetItem
  | updateItem
deriving DecidableEq, Repr

namespace Operation

/-- The name of an operation. -/
def name : Operation → String
  | .getItem => "GetItem"
  | .batchGetItem => "BatchGetItem"
  | .updateItem => "UpdateItem"

/-- The operation as the store's interface, version included, calls it. -/
def target (operation : Operation) : String := "DynamoDB_20120810." ++ operation.name

end Operation

namespace Request

/-- The operation that serves a request. -/
def operation : Request → Operation
  | .get _ => .getItem
  | .batchGet _ => .batchGetItem
  | .update _ => .updateItem

/-- The written form of a request. -/
def toJson : Request → Json
  | .get request => GetRequest.record.codec.encode request
  | .batchGet request => BatchGetRequest.record.codec.encode request
  | .update request => UpdateRequest.record.codec.encode request

end Request

end ItemStore
