import ItemStore.Message.Cost
import ItemStore.Message.Request

/-!
# ItemStore.Message.Response

What a store returns for each kind of request.
-/

namespace ItemStore

open Json (Codec Field Fields Record)

/-- The answer to a `GetRequest`. -/
structure GetResponse where
  /-- The item, if there is one with the key. -/
  item : Option Item := none
  /-- The consumed capacity. -/
  capacity : Option ConsumedCapacity := none
deriving DecidableEq, Inhabited

/-- The written form of `GetResponse`. -/
def GetResponse.record : Record GetResponse where
  name := "GetItemOutput"
  types := [Option Item, Option ConsumedCapacity]
  fields :=
    .cons (.optional "Item" Item.codec) <|
    .cons (.optional "ConsumedCapacity" ConsumedCapacity.record.codec) .nil
  toRow r := (r.item, r.capacity, ())
  ofRow | (item, capacity, ()) => { item, capacity }

/-- The answer to a `BatchGetRequest`. -/
structure BatchGetResponse where
  /-- The items read from each table. -/
  responses : NameMap (List Item) := ∅
  /-- The keys that the store did not get to. -/
  unprocessed : NameMap TableKeys := ∅
  /-- The consumed capacity, by table. -/
  capacity : List ConsumedCapacity := []
deriving DecidableEq, Inhabited

/-- The written form of `BatchGetResponse`. -/
def BatchGetResponse.record : Record BatchGetResponse where
  name := "BatchGetItemOutput"
  types := [NameMap (List Item), NameMap TableKeys, List ConsumedCapacity]
  fields :=
    .cons (.defaulted "Responses" (.map (.list Item.codec)) ∅) <|
    .cons (.mapping "UnprocessedKeys" TableKeys.record.codec) <|
    .cons (.listing "ConsumedCapacity" ConsumedCapacity.record.codec) .nil
  toRow r := (r.responses, r.unprocessed, r.capacity, ())
  ofRow | (responses, unprocessed, capacity, ()) => { responses, unprocessed, capacity }

/-- The answer to an `UpdateRequest`. -/
structure UpdateResponse where
  item : Item := ∅
  capacity : Option ConsumedCapacity := none
  metrics : Option CollectionMetrics := none
deriving DecidableEq, Inhabited

/-- The written form of `UpdateResponse`. -/
def UpdateResponse.record : Record UpdateResponse where
  name := "UpdateItemOutput"
  types := [Item, Option ConsumedCapacity, Option CollectionMetrics]
  fields :=
    .cons (.mapping "Attributes" Value.codec) <|
    .cons (.optional "ConsumedCapacity" ConsumedCapacity.record.codec) <|
    .cons (.optional "ItemCollectionMetrics" CollectionMetrics.record.codec) .nil
  toRow r := (r.item, r.capacity, r.metrics, ())
  ofRow | (item, capacity, metrics, ()) => { item, capacity, metrics }

end ItemStore
