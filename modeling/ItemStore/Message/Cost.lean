import ItemStore.Value.Wire

/-!
# ItemStore.Message.Cost

What a store tells about the cost of a request: the capacity it consumed, and the size of the item
collection that it wrote to.
-/

namespace ItemStore

open Decimal (Double)
open Json (Codec Field Fields Record)

/-- Capacity units consumed by a table or an index. -/
structure Capacity where
  /-- For reading. -/
  read : Option Double := none
  /-- For writing. -/
  write : Option Double := none
  total : Option Double := none
deriving DecidableEq, Inhabited

/-- The written form of `Capacity`. -/
def Capacity.record : Record Capacity where
  name := "Capacity"
  types := [Option Double, Option Double, Option Double]
  fields :=
    .cons (.optional "ReadCapacityUnits" .real) <|
    .cons (.optional "WriteCapacityUnits" .real) <|
    .cons (.optional "CapacityUnits" .real) .nil
  toRow capacity := (capacity.read, capacity.write, capacity.total, ())
  ofRow | (read, write, total, ()) => { read, write, total }

/-- Capacity consumed by one request on one table. -/
structure ConsumedCapacity where
  tableName : Option String := none
  /-- Units in total. -/
  total : Option Double := none
  /-- Units for reading. -/
  read : Option Double := none
  /-- Units for writing. -/
  write : Option Double := none
  /-- Units of the table itself. -/
  table : Option Capacity := none
  /-- Units of each local index. -/
  localIndexes : NameMap Capacity := ∅
  /-- Units of each global index. -/
  globalIndexes : NameMap Capacity := ∅
deriving DecidableEq, Inhabited

/-- The written form of `ConsumedCapacity`. -/
def ConsumedCapacity.record : Record ConsumedCapacity where
  name := "ConsumedCapacity"
  types := [Option String, Option Double, Option Double, Option Double, Option Capacity,
    NameMap Capacity, NameMap Capacity]
  fields :=
    .cons (.optional "TableName" .text) <|
    .cons (.optional "CapacityUnits" .real) <|
    .cons (.optional "ReadCapacityUnits" .real) <|
    .cons (.optional "WriteCapacityUnits" .real) <|
    .cons (.optional "Table" Capacity.record.codec) <|
    .cons (.mapping "LocalSecondaryIndexes" Capacity.record.codec) <|
    .cons (.mapping "GlobalSecondaryIndexes" Capacity.record.codec) .nil
  toRow c := (c.tableName, c.total, c.read, c.write, c.table, c.localIndexes, c.globalIndexes, ())
  ofRow
    | (tableName, total, read, write, table, localIndexes, globalIndexes, ()) =>
      { tableName, total, read, write, table, localIndexes, globalIndexes }

/-- The size of an item collection. -/
structure CollectionMetrics where
  /-- The part of the key that the items of the collection share. -/
  key : Item := ∅
  /-- A lower and an upper estimate in gigabytes. -/
  sizeRange : List Double := []
deriving DecidableEq, Inhabited

/-- The written form of `CollectionMetrics`. -/
def CollectionMetrics.record : Record CollectionMetrics where
  name := "ItemCollectionMetrics"
  types := [Item, List Double]
  fields :=
    .cons (.mapping "ItemCollectionKey" Value.codec) <|
    .cons (.listing "SizeEstimateRangeGB" .real) .nil
  toRow metrics := (metrics.key, metrics.sizeRange, ())
  ofRow | (key, sizeRange, ()) => { key, sizeRange }

end ItemStore
