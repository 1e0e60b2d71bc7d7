import ItemStore.Json.Codec
import ItemStore.Text.Ascii

/-!
# ItemStore.Message.Options

The options of an update that are one of a few names: which attributes it returns, and which figures
about its cost.
-/

namespace ItemStore

open Json (Codec)

/-- A type whose values have names, all different. -/
structure Choices (α : Type) where
  /-- What is chosen, for messages. -/
  kind : String
  /-- All values. -/
  all : List α
  /-- The name of a value, in capitals. -/
  name : α → String

/-- A text that names none of the values. -/
structure UnknownChoice where
  /-- What was to be chosen. -/
  kind : String
  /-- The text. -/
  value : String
deriving DecidableEq, Repr

/-- The fault in words. -/
def UnknownChoice.message (unknown : UnknownChoice) : String :=
  "invalid " ++ unknown.kind ++ " value: " ++ unknown.value

namespace Choices

variable {α : Type}

/-- The value that a text names, in any letter case. -/
def parse (choices : Choices α) (text : String) : Except UnknownChoice α :=
  match choices.all.find? fun a => choices.name a == Text.upper text with
  | some a => .ok a
  | none => .error ⟨choices.kind, text⟩

/-- The values in written form: by their names, exactly. -/
def codec (choices : Choices α) : Codec α :=
  Codec.choice (choices.all.map fun a => (choices.name a, a)) choices.name

end Choices

/-- Which attributes of the item an update returns. -/
inductive ReturnValues
  | none
  /-- All, as they were before. -/
  | allOld
  /-- The updated ones, as they were before. -/
  | updatedOld
  /-- All, as they are afterwards. -/
  | allNew
  /-- The updated ones, as they are afterwards. -/
  | updatedNew
deriving DecidableEq, Repr

namespace ReturnValues

instance : Inhabited ReturnValues := ⟨.allNew⟩

/-- The name. -/
def name : ReturnValues → String
  | .none => "NONE"
  | .allOld => "ALL_OLD"
  | .updatedOld => "UPDATED_OLD"
  | .allNew => "ALL_NEW"
  | .updatedNew => "UPDATED_NEW"

/-- All of them. -/
def choices : Choices ReturnValues :=
  ⟨"ReturnValues", [.none, .allOld, .updatedOld, .allNew, .updatedNew], name⟩

end ReturnValues

/-- In which detail a response tells the capacity that a request consumed. -/
inductive CapacityDetail
  /-- For the table and each index. -/
  | indexes
  | total
  /-- Not at all. -/
  | none
deriving DecidableEq, Repr

namespace CapacityDetail

instance : Inhabited CapacityDetail := ⟨.none⟩

/-- The name. -/
def name : CapacityDetail → String
  | .indexes => "INDEXES"
  | .total => "TOTAL"
  | .none => "NONE"

/-- All of them. -/
def choices : Choices CapacityDetail := ⟨"ReturnConsumedCapacity", [.indexes, .total, .none], name⟩

end CapacityDetail

/-- Whether a response tells the size of the item's collection. -/
inductive MetricsDetail
  /-- By an estimate. -/
  | size
  /-- Not at all. -/
  | none
deriving DecidableEq, Repr

namespace MetricsDetail

instance : Inhabited MetricsDetail := ⟨.none⟩

/-- The name. -/
def name : MetricsDetail → String
  | .size => "SIZE"
  | .none => "NONE"

/-- All of them. -/
def choices : Choices MetricsDetail := ⟨"ReturnItemCollectionMetrics", [.size, .none], name⟩

end MetricsDetail

end ItemStore
