import Mathlib
import ItemStore.Proofs.Json.Arranged
import ItemStore.Proofs.Text.Base64
import ItemStore.Value.Wire

/-!
# ItemStore.Proofs.Value.RoundTrip

Attribute values that are written and read.

A map may be written in any order, so a text can also be that of a tree which is out of order. What
is read is the tree with its maps in order (`Tree.decode_toJson`), and for the tree of a value that
is the tree itself.
-/

namespace ItemStore

open Json (Codec Decoder DecodeError Outline)

namespace Tree

/-! ### Trees in order -/

mutual

/-- The tree with its maps in order; of entries with one name the last is kept. -/
def sorted : Tree → Tree
  | .list items => .list (sortedItems items)
  | .map entries => .map (Entries.ofList (sortedEntries entries))
  | tree => tree

/-- `sorted` on each item. -/
def sortedItems : List Tree → List Tree
  | [] => []
  | item :: rest => sorted item :: sortedItems rest

/-- `sorted` on the tree of each entry. -/
def sortedEntries : List (String × Tree) → List (String × Tree)
  | [] => []
  | (name, tree) :: rest => (name, sorted tree) :: sortedEntries rest

end

mutual

theorem sorted_of_canonical : (tree : Tree) → tree.Canonical → tree.sorted = tree
  | .list items, canonical => by rw [sorted, sortedItems_of_allCanonical items canonical]
  | .map entries, canonical => by
      rw [sorted, sortedEntries_of_entriesCanonical entries canonical.2,
        Entries.ofList_of_ordered canonical.1]
  | .text _, _ | .number _, _ | .binary _, _ | .texts _, _ | .numbers _, _ | .binaries _, _
  | .bool _, _ | .null _, _ => rfl

theorem sortedItems_of_allCanonical : (items : List Tree) → AllCanonical items →
    sortedItems items = items
  | [], _ => rfl
  | item :: rest, canonical => by
      rw [sortedItems, sorted_of_canonical item canonical.1,
        sortedItems_of_allCanonical rest canonical.2]

theorem sortedEntries_of_entriesCanonical : (entries : List (String × Tree)) →
    EntriesCanonical entries → sortedEntries entries = entries
  | [], _ => rfl
  | (name, tree) :: rest, canonical => by
      rw [sortedEntries, sorted_of_canonical tree canonical.1,
        sortedEntries_of_entriesCanonical rest canonical.2]

end

mutual

theorem canonical_sorted : (tree : Tree) → tree.sorted.Canonical
  | .list items => allCanonical_sortedItems items
  | .map entries => canonical_map_ofList (entriesCanonical_sortedEntries entries)
  | .text _ | .number _ | .binary _ | .texts _ | .numbers _ | .binaries _ | .bool _
  | .null _ => trivial

theorem allCanonical_sortedItems : (items : List Tree) → AllCanonical (sortedItems items)
  | [] => trivial
  | item :: rest => ⟨canonical_sorted item, allCanonical_sortedItems rest⟩

theorem entriesCanonical_sortedEntries : (entries : List (String × Tree)) →
    EntriesCanonical (sortedEntries entries)
  | [] => trivial
  | (_, tree) :: rest => ⟨canonical_sorted tree, entriesCanonical_sortedEntries rest⟩

end

/-! ### Written trees -/

theorem isNumberFree_tagged (type : AttributeType) (payload : Json) :
    (tagged type payload).isNumberFree = payload.isNumberFree := by
  simp [tagged, Json.isNumberFree, Json.allMembersNumberFree]

theorem depth_tagged (type : AttributeType) (payload : Json) :
    (tagged type payload).depth = payload.depth + 1 := by
  simp [tagged, Json.depth, Json.depthMembers]

/-- A set of binary data is written as the texts of its items. -/
theorem payload_binaries (items : List (List UInt8)) :
    (binaries items).payload = .array ((items.map Base64.encode).map .text) := by
  rw [payload, List.map_map]
  rfl

theorem allNumberFree_texts (items : List String) :
    Json.allNumberFree (items.map Json.text) = true :=
  (Decoder.reads_texts items).numberFree (Decoder.reads_texts items).distinct.arranges

mutual

/-- Numbers are written as texts. -/
theorem isNumberFree_payload : (tree : Tree) → tree.payload.isNumberFree = true
  | .text _ | .number _ | .binary _ | .bool _ | .null _ => rfl
  | .texts items => allNumberFree_texts items
  | .numbers items => allNumberFree_texts items
  | .binaries items => by
      rw [payload_binaries]
      exact allNumberFree_texts (items.map Base64.encode)
  | .list items => allNumberFree_writtenItems items
  | .map entries => allMembersNumberFree_writtenEntries entries

theorem allNumberFree_writtenItems : (items : List Tree) →
    Json.allNumberFree (writtenItems items) = true
  | [] => rfl
  | item :: rest => by
      rw [writtenItems, Json.allNumberFree, isNumberFree_tagged, isNumberFree_payload item,
        allNumberFree_writtenItems rest]
      rfl

theorem allMembersNumberFree_writtenEntries : (entries : List (String × Tree)) →
    Json.allMembersNumberFree (writtenEntries entries) = true
  | [] => rfl
  | (name, tree) :: rest => by
      rw [writtenEntries, Json.allMembersNumberFree, isNumberFree_tagged,
        isNumberFree_payload tree, allMembersNumberFree_writtenEntries rest]
      rfl

end

theorem isNumberFree_toJson (tree : Tree) : tree.toJson.isNumberFree = true := by
  rw [toJson, isNumberFree_tagged, isNumberFree_payload]

/-! ### Written trees that are decoded -/

theorem binaryOf_encode (bytes : List UInt8) : binaryOf (Base64.encode bytes) = .ok bytes := by
  rw [binaryOf, Base64.decode_encode]

theorem mapM_binaryOf (items : List (List UInt8)) :
    (items.map Base64.encode).mapM binaryOf = .ok items := by
  induction items with
  | nil => rfl
  | cons bytes rest ih =>
      rw [List.map_cons, List.mapM_cons, binaryOf_encode, ih]
      rfl

/-- An array of texts is decoded as the texts. -/
theorem decode_texts {room : Nat} {items : List String}
    (nested : (Json.array (items.map .text)).depth ≤ room) :
    Decoder.list Decoder.text room (Outline.ofJson (.array (items.map .text))) = .ok items :=
  (Decoder.reads_texts items).decoded (Decoder.reads_texts items).distinct.arranges nested

/-- An object with the key of a type is decoded as what is decoded by the type. -/
theorem decode_tagged {type : AttributeType} {payload : Json} {room : Nat} {tree : Tree}
    (h : decodePayload room type (Outline.ofJson payload) = .ok tree) :
    decode (room + 1) (Outline.ofJson (tagged type payload)) = .ok tree := by
  show decode (room + 1) (.object [(some type.key, Outline.ofJson payload)] true) = _
  rw [decode, AttributeType.ofKey?_key]
  simp only [h]
  rfl

mutual

theorem decodePayload_payload : (tree : Tree) → (room : Nat) → tree.payload.depth ≤ room →
    decodePayload room tree.type (Outline.ofJson tree.payload) = .ok tree.sorted
  | .text _, _, _ => rfl
  | .number _, _, _ => rfl
  | .bool _, _, _ => rfl
  | .null _, _, _ => rfl
  | .binary bytes, room, _ => by
      show decodePayload room .binary (.string (some (Base64.encode bytes))) = _
      rw [decodePayload]
      simp only [Decoder.text, bind, Except.bind, binaryOf_encode]
      rfl
  | .texts items, room, nested => by
      show (Decoder.list Decoder.text room _).map Tree.texts = _
      rw [payload, decode_texts nested]
      rfl
  | .numbers items, room, nested => by
      show (Decoder.list Decoder.text room _).map Tree.numbers = _
      rw [payload, decode_texts nested]
      rfl
  | .binaries items, room, nested => by
      rw [payload_binaries] at nested ⊢
      show decodePayload room .binaries _ = _
      rw [decodePayload, decode_texts nested]
      simp only [bind, Except.bind, mapM_binaryOf]
      rfl
  | .list items, room, nested => by
      have shallow : Json.depthItems (writtenItems items) + 1 ≤ room := nested
      obtain ⟨less, rfl⟩ : ∃ less, room = less + 1 := ⟨room - 1, by omega⟩
      have decoded := decodeItems_writtenItems items less (by omega)
      show (decodeItems less true (Outline.ofItems (writtenItems items))).map Tree.list = _
      rw [decoded]
      rfl
  | .map entries, room, nested => by
      have shallow : Json.depthMembers (writtenEntries entries) + 1 ≤ room := nested
      obtain ⟨less, rfl⟩ : ∃ less, room = less + 1 := ⟨room - 1, by omega⟩
      have decoded := decodeMembers_writtenEntries entries less (by omega)
      show (decodeMembers less true (Outline.ofMembers (writtenEntries entries))).map
        (fun pairs => Tree.map (Entries.ofList pairs)) = _
      rw [decoded]
      rfl

theorem decodeItems_writtenItems : (items : List Tree) → (room : Nat) →
    Json.depthItems (writtenItems items) ≤ room →
    decodeItems room true (Outline.ofItems (writtenItems items)) = .ok (sortedItems items)
  | [], _, _ => rfl
  | item :: rest, room, nested => by
      rw [writtenItems, Json.depthItems, depth_tagged] at nested
      obtain ⟨less, rfl⟩ : ∃ less, room = less + 1 := ⟨room - 1, by omega⟩
      have first := decode_tagged (decodePayload_payload item less (by omega))
      have others := decodeItems_writtenItems rest (less + 1) (by omega)
      rw [writtenItems, Outline.ofItems, decodeItems, first, others]
      rfl

theorem decodeMembers_writtenEntries : (entries : List (String × Tree)) → (room : Nat) →
    Json.depthMembers (writtenEntries entries) ≤ room →
    decodeMembers room true (Outline.ofMembers (writtenEntries entries)) =
      .ok (sortedEntries entries)
  | [], _, _ => rfl
  | (name, tree) :: rest, room, nested => by
      rw [writtenEntries, Json.depthMembers, depth_tagged] at nested
      obtain ⟨less, rfl⟩ : ∃ less, room = less + 1 := ⟨room - 1, by omega⟩
      have first := decode_tagged (decodePayload_payload tree less (by omega))
      have others := decodeMembers_writtenEntries rest (less + 1) (by omega)
      rw [writtenEntries, Outline.ofMembers, decodeMembers, first, others]
      rfl

end

/-- A written tree is decoded as the tree in order, where there is room for its nesting. -/
theorem decode_toJson {tree : Tree} {room : Nat} (nested : tree.toJson.depth ≤ room) :
    decode room (Outline.ofJson tree.toJson) = .ok tree.sorted := by
  rw [toJson, depth_tagged] at nested
  obtain ⟨less, rfl⟩ : ∃ less, room = less + 1 := ⟨room - 1, by omega⟩
  exact decode_tagged (decodePayload_payload tree less (by omega))

end Tree

namespace Value

theorem decode_eq {value : Value} {room : Nat} {outline : Outline}
    (h : Tree.decode room outline = .ok value.tree) : decode room outline = .ok value := by
  unfold decode
  split
  · rename_i tree eq
    rw [h] at eq
    cases eq
    rfl
  · rename_i fault eq
    rw [h] at eq
    cases eq

theorem roundTrips_codec : codec.RoundTrips where
  numberFree value := Tree.isNumberFree_toJson value.tree
  decode value room nested := by
    have decoded := Tree.decode_toJson nested
    rw [Tree.sorted_of_canonical value.tree value.canonical] at decoded
    exact decode_eq decoded

/-- The value that a tree stands for, whose maps may be out of order. -/
def ofTree (tree : Tree) : Value := ⟨tree.sorted, tree.canonical_sorted⟩

/--
A value is read from the bytes of its text, if the text nests at most 127 arrays and objects. The
order in which the entries of its maps are written makes no difference.
-/
theorem read_written {value : Value} (nested : (codec.encode value).depth ≤ 127) :
    codec.read (.ofBytes (Text.utf8 (codec.encode value).print)) = .ok value ∧
      ∀ tree : Tree, ofTree tree = value → tree.toJson.depth ≤ 127 →
        codec.read (.ofBytes (Text.utf8 tree.toJson.print)) = .ok value := by
  refine ⟨roundTrips_codec.read nested, fun tree same shallow => ?_⟩
  have decoded := Tree.decode_toJson shallow
  rw [show tree.sorted = value.tree from congrArg Value.tree same] at decoded
  exact Decoder.read_print (Tree.isNumberFree_toJson tree) (decode_eq decoded)

/-- A map whose entries are out of order. -/
def unordered : Tree :=
  .map [("b", .list [.number "1e3", .binaries [[0, 255], []], .map []]), ("a", .text "\"\n\u001f")]

theorem read_written_of_unordered :
    ∃ value : Value, value.tree ≠ unordered ∧
      codec.read (.ofBytes (Text.utf8 (codec.encode value).print)) = .ok value ∧
      codec.read (.ofBytes (Text.utf8 unordered.toJson.print)) = .ok value := by
  have nested : (codec.encode (ofTree unordered)).depth ≤ 127 := by decide +kernel
  have shallow : unordered.toJson.depth ≤ 127 := by decide +kernel
  obtain ⟨own, others⟩ := read_written nested
  exact ⟨ofTree unordered, by decide +kernel, own, others unordered rfl shallow⟩

end Value

end ItemStore
