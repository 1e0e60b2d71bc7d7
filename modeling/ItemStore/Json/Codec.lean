import ItemStore.Json.Decoding
import ItemStore.Json.Printer

/-!
# ItemStore.Json.Codec

Types with a written form: an encoder into documents beside a decoder of outlines, and records whose
written form is an object with one member per field.

Design points:

* A record is described once, field by field, and both directions come from that description. So a
  field has one name, one default and one type, whichever way it travels.
* `Row` holds one value per field and `Slots` the values met so far. Fields are decoded in the order
  in which the text has them, but a missing one is looked for in the order of the description.
* A record may also be written as an array of its fields in the order of the description.
-/

namespace ItemStore.Json

/-- A written form of the values of a type. -/
structure Codec (α : Type) where
  /-- Writes a value. -/
  encode : α → Json
  /-- Reads a value. -/
  decode : Decoder α

namespace Codec

variable {α : Type}

/-- Texts as JSON texts. -/
def text : Codec String := ⟨.text, Decoder.text⟩

/-- Truth values. -/
def bool : Codec Bool := ⟨.bool, Decoder.bool⟩

/-- Floating-point numbers. -/
def real : Codec Decimal.Double := ⟨fun x => .number (.real x), Decoder.real⟩

/-- Documents, in which the last member of a name counts and order means nothing. -/
def document : Codec Json where
  encode := Json.canonical
  decode room outline := (Decoder.document room outline).map Json.canonical

/-- Lists as arrays. -/
def list (codec : Codec α) : Codec (List α) where
  encode items := .array (items.map codec.encode)
  decode := Decoder.list codec.decode

/-- Maps as objects. -/
def map (codec : Codec α) : Codec (NameMap α) where
  encode entries := .object (entries.entries.map fun entry => (entry.1, codec.encode entry.2))
  decode := Decoder.map codec.decode

/-- Choices by their names. -/
def choice (choices : List (String × α)) (name : α → String) : Codec α where
  encode a := .text (name a)
  decode := Decoder.choice choices

/-- Reads a text that holds one value and nothing else. -/
def read (codec : Codec α) (source : ItemStore.Text.Source) : Except DecodeError α :=
  codec.decode.read source

/-- Reads a text that holds one value and nothing else. -/
def readText (codec : Codec α) (text : String) : Except DecodeError α :=
  codec.read (.ofString text)

end Codec

/-! ### Records -/

/-- A field of a record. -/
structure Field (α : Type) where
  /-- The name it is written with. -/
  name : String
  /-- Other names it is read with. -/
  aliases : List String
  /-- Writes its value, or leaves it out. -/
  encode : α → Option Json
  /-- Reads its value. -/
  decode : Decoder α
  /-- Its value in an object that does not have it. -/
  absent : Option α
  /-- Its value in an array that ends before it. -/
  cut : Option α

namespace Field

variable {α : Type}

/-- Whether a field is read with a name. -/
def answers (field : Field α) (name : String) : Bool :=
  name == field.name || field.aliases.contains name

/-- A field that is always there. -/
def required (name : String) (codec : Codec α) : Field α :=
  ⟨name, [], fun a => some (codec.encode a), codec.decode, none, none⟩

/-- A field that may be left out, or be null. -/
def optional (name : String) (codec : Codec α) : Field (Option α) :=
  ⟨name, [], fun a => a.map codec.encode, Decoder.optional codec.decode, some none, none⟩

/-- A field that is always written, but has a default when it is read. -/
def defaulted (name : String) (codec : Codec α) (fallback : α) : Field α :=
  ⟨name, [], fun a => some (codec.encode a), codec.decode, some fallback, some fallback⟩

/-- A map that is left out when it has no entries. -/
def mapping (name : String) (codec : Codec α) : Field (NameMap α) where
  name := name
  aliases := []
  encode entries := if entries.isEmpty then none else some ((Codec.map codec).encode entries)
  decode := (Codec.map codec).decode
  absent := some ∅
  cut := some ∅

/-- A list that is left out when it has no items. -/
def listing (name : String) (codec : Codec α) : Field (List α) where
  name := name
  aliases := []
  encode items := if items.isEmpty then none else some ((Codec.list codec).encode items)
  decode := (Codec.list codec).decode
  absent := some []
  cut := some []

end Field

/-- The fields of a record, with the types of their values. -/
inductive Fields : List Type → Type 1
  /-- No more fields. -/
  | nil : Fields []
  /-- A field, then more. -/
  | cons {α : Type} {types : List Type} (field : Field α) (rest : Fields types) :
      Fields (α :: types)

/-- One value for each field. -/
def Row : List Type → Type
  | [] => Unit
  | α :: types => α × Row types

/-- The values of the fields met so far. -/
def Slots : List Type → Type
  | [] => Unit
  | α :: types => Option α × Slots types

namespace Fields

/-- How many fields there are. -/
def count {types : List Type} : Fields types → Nat
  | .nil => 0
  | .cons _ rest => rest.count + 1

/-- Before any field is met. -/
def noSlots {types : List Type} : Fields types → Slots types
  | .nil => ()
  | .cons _ rest => (none, rest.noSlots)

/-- Takes in a member; there is no result if no field is read with its name. -/
def put? {types : List Type} (room : Nat) (name : String) (value : Outline) :
    Fields types → Slots types → Option (Except DecodeError (Slots types))
  | .nil, _ => none
  | .cons field rest, (slot, slots) =>
      if field.answers name then
        match slot with
        | some _ => some (.error (.repeated field.name))
        | none => some ((field.decode room value).map fun a => (some a, slots))
      else (rest.put? room name value slots).map fun result => result.map fun slots => (slot, slots)

/-- Takes in members one after the other. Those that belong to no field are skipped. -/
def putAll {types : List Type} (fields : Fields types) (room : Nat) :
    List (Option String × Outline) → Slots types → Except DecodeError (Slots types)
  | [], slots => .ok slots
  | (none, _) :: _, _ => .error .malformed
  | (some name, value) :: rest, slots =>
      match fields.put? room name value slots with
      | some (.error e) => .error e
      | some (.ok slots) => fields.putAll room rest slots
      | none => if value.isComplete then fields.putAll room rest slots else .error .malformed

/-- The values of all fields, by their defaults where they were not met. -/
def fill {types : List Type} : Fields types → Slots types → Except DecodeError (Row types)
  | .nil, _ => .ok ()
  | .cons field rest, (slot, slots) =>
      match slot.or field.absent with
      | none => .error (.missing field.name)
      | some a => (rest.fill slots).map fun row => (a, row)

/-- Reads the fields in order from the items of an array; no items may be left. -/
def ofItems {types : List Type} (record : String) (total room : Nat) (closed : Bool) :
    Fields types → (index : Nat) → List Outline → Except DecodeError (Row types)
  | .nil, _, items => if items.isEmpty && closed then .ok () else .error .malformed
  | .cons field rest, index, item :: items => do
      let a ← field.decode room item
      let row ← rest.ofItems record total room closed (index + 1) items
      return (a, row)
  | .cons field rest, index, [] =>
      if !closed then .error .malformed
      else
        match field.cut with
        | none => .error (.tooShort index record total)
        | some a => (rest.ofItems record total room closed (index + 1) []).map fun row => (a, row)

/-- The members of an object for the fields, those left out apart. -/
def members {types : List Type} : Fields types → Row types → List (String × Json)
  | .nil, _ => []
  | .cons field rest, (a, row) =>
      match field.encode a with
      | some value => (field.name, value) :: rest.members row
      | none => rest.members row

end Fields

/--
The description of a record type: its name, its fields, and the value that the fields make up.
-/
structure Record (α : Type) where
  /-- The name, for messages. -/
  name : String
  /-- The types of the fields. -/
  types : List Type
  fields : Fields types
  /-- The values of the fields. -/
  toRow : α → Row types
  /-- The record with given values. -/
  ofRow : Row types → α

namespace Record

variable {α : Type}

/-- Reads a record from an object or from an array. -/
def decode (record : Record α) : Decoder α
  | room + 1, .object members closed => do
      let slots ← record.fields.putAll room members record.fields.noSlots
      if !closed then throw .malformed
      return record.ofRow (← record.fields.fill slots)
  | room + 1, .array items closed => do
      let row ← record.fields.ofItems record.name record.fields.count room closed 0 items
      return record.ofRow row
  | 0, .object _ _ => .error .malformed
  | 0, .array _ _ => .error .malformed
  | _, outline => .error (unexpected outline (.record record.name))

/-- Records as objects. -/
def codec (record : Record α) : Codec α where
  encode a := .object (record.fields.members (record.toRow a))
  decode := record.decode

end Record

end ItemStore.Json
