import ItemStore.Json.Codec
import ItemStore.Value.Basic

/-!
# ItemStore.Value.Wire

The written form of attribute values: an object with one member, whose name is the key of the type.
Numbers are texts and binary data is in Base64, `{"N":"42"}` and `{"B":"AA=="}`.
-/

namespace ItemStore

open Json (Decoder Outline DecodeError Codec unexpected)

namespace Tree

/-- The written form of a value, given its type and the form without the type. -/
def tagged (type : AttributeType) (payload : Json) : Json := .object [(type.key, payload)]

mutual

/-- The written form of a tree without its type. -/
def payload : Tree → Json
  | .text s => .text s
  | .number digits => .text digits
  | .binary bytes => .text (Base64.encode bytes)
  | .texts items => .array (items.map .text)
  | .numbers items => .array (items.map .text)
  | .binaries items => .array (items.map fun bytes => .text (Base64.encode bytes))
  | .bool b => .bool b
  | .null b => .bool b
  | .list items => .array (writtenItems items)
  | .map entries => .object (writtenEntries entries)

/-- The written forms of a list of trees. -/
def writtenItems : List Tree → List Json
  | [] => []
  | item :: rest => tagged item.type (payload item) :: writtenItems rest

/-- The written forms of the trees of a map. -/
def writtenEntries : List (String × Tree) → List (String × Json)
  | [] => []
  | (name, tree) :: rest => (name, tagged tree.type (payload tree)) :: writtenEntries rest

end

/-- The written form of a tree. -/
def toJson (tree : Tree) : Json := tagged tree.type tree.payload

/-- The bytes that a text in Base64 stands for. -/
def binaryOf (text : String) : Except DecodeError (List UInt8) :=
  match Base64.decode text with
  | .ok bytes => .ok bytes
  | .error cause => .error (.binary cause)

mutual

/--
Reads a tree: the key of the type, the value by that type, and then the end of the object. A second
member is refused when its name is read.
-/
def decode : Decoder Tree
  | room + 1, .object ((some key, value) :: rest) closed =>
      match AttributeType.ofKey? key with
      | none => .error (.unknownType key AttributeType.keys)
      | some type =>
          match decodePayload room type value with
          | .error e => .error e
          | .ok tree =>
              match rest with
              | [] => if closed then .ok tree else .error .malformed
              | (none, _) :: _ => .error .malformed
              | (some _, _) :: _ => .error .notOneType
  | _ + 1, .object [] true => .error .notOneType
  | _, .object _ _ => .error .malformed
  | _, outline => .error (unexpected outline .attributeValue)

/-- Reads a value of a given type. -/
def decodePayload (room : Nat) (type : AttributeType) (outline : Outline) :
    Except DecodeError Tree :=
  match type with
  | .text => (Decoder.text room outline).map .text
  | .number => (Decoder.text room outline).map .number
  | .binary => do return .binary (← binaryOf (← Decoder.text room outline))
  | .texts => (Decoder.list Decoder.text room outline).map .texts
  | .numbers => (Decoder.list Decoder.text room outline).map .numbers
  | .binaries => do
      let items ← Decoder.list Decoder.text room outline
      return .binaries (← items.mapM binaryOf)
  | .bool => (Decoder.bool room outline).map .bool
  | .null => (Decoder.bool room outline).map .null
  | .list =>
      match room, outline with
      | room + 1, .array items closed => (decodeItems room closed items).map .list
      | 0, .array _ _ => .error .malformed
      | _, outline => .error (unexpected outline .list)
  | .map =>
      match room, outline with
      | room + 1, .object members closed =>
          (decodeMembers room closed members).map fun pairs => .map (Entries.ofList pairs)
      | 0, .object _ _ => .error .malformed
      | _, outline => .error (unexpected outline .map)

/-- Reads the items of a list, which must end behind them. -/
def decodeItems (room : Nat) (closed : Bool) : List Outline → Except DecodeError (List Tree)
  | [] => if closed then .ok [] else .error .malformed
  | item :: rest => do
      let tree ← decode room item
      let more ← decodeItems room closed rest
      return tree :: more

/-- Reads the members of a map, which must end behind them. -/
def decodeMembers (room : Nat) (closed : Bool) :
    List (Option String × Outline) → Except DecodeError (List (String × Tree))
  | [] => if closed then .ok [] else .error .malformed
  | (none, _) :: _ => .error .malformed
  | (some name, value) :: rest => do
      let tree ← decode room value
      let more ← decodeMembers room closed rest
      return (name, tree) :: more

end

mutual

/-- What is read is in order, since maps are collected into order. -/
theorem canonical_of_decode : (outline : Outline) → {room : Nat} → {tree : Tree} →
    decode room outline = .ok tree → tree.Canonical
  | .object [] closed, room, tree, h => by
      cases room <;> cases closed <;> simp [decode] at h
  | .object ((none, _) :: _) _, room, tree, h => by cases room <;> simp [decode] at h
  | .object ((some key, value) :: rest) closed, room, tree, h => by
      cases room with
      | zero => simp [decode] at h
      | succ room =>
        rw [decode] at h
        split at h
        · simp at h
        · split at h
          · simp at h
          · rename_i payload_eq
            have canonical := canonical_of_decodePayload value payload_eq
            split at h
            · split at h
              · simp only [Except.ok.injEq] at h
                exact h ▸ canonical
              · simp at h
            · simp at h
            · simp at h
  | .null, room, _, h | .bool _, room, _, h | .number _, room, _, h | .string _, room, _, h
  | .array _ _, room, _, h | .broken, room, _, h => by cases room <;> simp [decode] at h

theorem canonical_of_decodePayload : (outline : Outline) → {room : Nat} → {type : AttributeType} →
    {tree : Tree} → decodePayload room type outline = .ok tree → tree.Canonical
  | outline, room, .list, tree, h => by
      cases outline with
      | array items closed =>
        cases room with
        | zero => simp [decodePayload] at h
        | succ room =>
          rw [decodePayload] at h
          obtain ⟨_, eq, rfl⟩ := Json.map_eq_ok h
          exact allCanonical_of_decodeItems items eq
      | _ => cases room <;> simp [decodePayload] at h
  | outline, room, .map, tree, h => by
      cases outline with
      | object members closed =>
        cases room with
        | zero => simp [decodePayload] at h
        | succ room =>
          rw [decodePayload] at h
          obtain ⟨_, eq, rfl⟩ := Json.map_eq_ok h
          exact canonical_map_ofList (entriesCanonical_of_decodeMembers members eq)
      | _ => cases room <;> simp [decodePayload] at h
  | outline, room, .binary, tree, h => by
      rw [decodePayload] at h
      obtain ⟨_, _, h⟩ := Json.bind_eq_ok h
      obtain ⟨_, _, h⟩ := Json.bind_eq_ok h
      cases h
      trivial
  | outline, room, .binaries, tree, h => by
      rw [decodePayload] at h
      obtain ⟨_, _, h⟩ := Json.bind_eq_ok h
      obtain ⟨_, _, h⟩ := Json.bind_eq_ok h
      cases h
      trivial
  | outline, room, .text, tree, h => by
      rw [decodePayload] at h
      obtain ⟨_, _, rfl⟩ := Json.map_eq_ok h
      trivial
  | outline, room, .number, tree, h => by
      rw [decodePayload] at h
      obtain ⟨_, _, rfl⟩ := Json.map_eq_ok h
      trivial
  | outline, room, .texts, tree, h => by
      rw [decodePayload] at h
      obtain ⟨_, _, rfl⟩ := Json.map_eq_ok h
      trivial
  | outline, room, .numbers, tree, h => by
      rw [decodePayload] at h
      obtain ⟨_, _, rfl⟩ := Json.map_eq_ok h
      trivial
  | outline, room, .bool, tree, h => by
      rw [decodePayload] at h
      obtain ⟨_, _, rfl⟩ := Json.map_eq_ok h
      trivial
  | outline, room, .null, tree, h => by
      rw [decodePayload] at h
      obtain ⟨_, _, rfl⟩ := Json.map_eq_ok h
      trivial

theorem allCanonical_of_decodeItems : (items : List Outline) → {room : Nat} → {closed : Bool} →
    {trees : List Tree} → decodeItems room closed items = .ok trees → AllCanonical trees
  | [], room, closed, trees, h => by
      rw [decodeItems] at h
      split at h
      · cases h; trivial
      · simp at h
  | item :: rest, room, closed, trees, h => by
      rw [decodeItems] at h
      obtain ⟨_, head, h⟩ := Json.bind_eq_ok h
      obtain ⟨_, tail, h⟩ := Json.bind_eq_ok h
      cases h
      exact ⟨canonical_of_decode item head, allCanonical_of_decodeItems rest tail⟩

theorem entriesCanonical_of_decodeMembers : (members : List (Option String × Outline)) →
    {room : Nat} → {closed : Bool} → {pairs : List (String × Tree)} →
    decodeMembers room closed members = .ok pairs → EntriesCanonical pairs
  | [], room, closed, pairs, h => by
      rw [decodeMembers] at h
      split at h
      · cases h; trivial
      · simp at h
  | (none, _) :: _, room, closed, pairs, h => by simp [decodeMembers] at h
  | (some name, value) :: rest, room, closed, pairs, h => by
      rw [decodeMembers] at h
      obtain ⟨_, head, h⟩ := Json.bind_eq_ok h
      obtain ⟨_, tail, h⟩ := Json.bind_eq_ok h
      cases h
      exact ⟨canonical_of_decode value head, entriesCanonical_of_decodeMembers rest tail⟩

end

end Tree

namespace Value

/-- The written form of a value. -/
def toJson (value : Value) : Json := value.tree.toJson

/-- Reads a value. -/
def decode : Decoder Value := fun room outline =>
  match h : Tree.decode room outline with
  | .ok tree => .ok ⟨tree, Tree.canonical_of_decode outline h⟩
  | .error e => .error e

/-- Values in their written form. -/
def codec : Codec Value := ⟨toJson, decode⟩

end Value

/-- Items in their written form. -/
def Item.codec : Codec Item := Codec.map Value.codec

end ItemStore
