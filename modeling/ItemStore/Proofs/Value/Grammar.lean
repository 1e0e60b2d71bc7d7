import Mathlib
import ItemStore.Proofs.Json.Canonical
import ItemStore.Proofs.Value.RoundTrip

/-!
# ItemStore.Proofs.Value.Grammar

The texts of attribute values.

`IsAttributeValue` is the grammar of the documents that stand for a value. A text is read as a value
exactly when it is that of such a document, nested no deeper than texts may be
(`Value.read_accepts_grammar`), and what was read says all that the document said.
-/

namespace ItemStore

open Json (Decoder Outline IsTextOf bind_eq_ok exists_forall₂ exists_map_of_forall₂ map_eq_ok)

/--
The documents that stand for attribute values: an object with one member, whose name says what its
value has to be. Values may be nested in lists and maps, and a map may have a name twice.
-/
inductive IsAttributeValue : Json → Prop
  | text (s : String) : IsAttributeValue (.object [("S", .text s)])
  | number (digits : String) : IsAttributeValue (.object [("N", .text digits)])
  | binary {code : String} (canonical : Base64.IsCanonical code.toList) :
      IsAttributeValue (.object [("B", .text code)])
  | texts (items : List String) : IsAttributeValue (.object [("SS", .array (items.map .text))])
  | numbers (items : List String) : IsAttributeValue (.object [("NS", .array (items.map .text))])
  | binaries {codes : List String}
      (canonical : ∀ code ∈ codes, Base64.IsCanonical code.toList) :
      IsAttributeValue (.object [("BS", .array (codes.map .text))])
  | bool (b : Bool) : IsAttributeValue (.object [("BOOL", .bool b)])
  | null (b : Bool) : IsAttributeValue (.object [("NULL", .bool b)])
  | list {items : List Json} (values : ∀ item ∈ items, IsAttributeValue item) :
      IsAttributeValue (.object [("L", .array items)])
  | map {members : List (String × Json)} (values : ∀ member ∈ members, IsAttributeValue member.2) :
      IsAttributeValue (.object [("M", .object members)])

namespace Tree

/-! ### Written trees -/

theorem writtenItems_eq_map (items : List Tree) : writtenItems items = items.map toJson := by
  induction items with
  | nil => rfl
  | cons item rest ih => rw [writtenItems, ih]; rfl

theorem writtenEntries_eq_map (entries : List (String × Tree)) :
    writtenEntries entries = entries.map fun entry => (entry.1, entry.2.toJson) := by
  induction entries with
  | nil => rfl
  | cons entry rest ih => obtain ⟨name, tree⟩ := entry; rw [writtenEntries, ih]; rfl

theorem canonical_tagged (type : AttributeType) (payload : Json) :
    (tagged type payload).canonical = tagged type payload.canonical := by
  rw [tagged, Json.canonical_object]
  rfl

/-! ### What is read -/

/--
A tree that was read from a document, with room for so many levels: the document stands for a value,
and the tree says what the document says.
-/
structure ReadFrom (room : Nat) (tree : Tree) (document : Json) : Prop where
  accepted : IsAttributeValue document
  nested : document.depth ≤ room
  same : tree.toJson.canonical = document.canonical

theorem text_of_decode {room : Nat} {outline : Outline} {s : String}
    (h : Decoder.text room outline = .ok s) : outline = Outline.ofJson (.text s) := by
  unfold Decoder.text at h
  split at h
  · cases h
    rfl
  · cases h

theorem bool_of_decode {room : Nat} {outline : Outline} {b : Bool}
    (h : Decoder.bool room outline = .ok b) : outline = Outline.ofJson (.bool b) := by
  unfold Decoder.bool at h
  split at h
  · cases h
    rfl
  · cases h

theorem depth_texts (items : List String) : (Json.array (items.map .text)).depth = 1 := by
  have flat : Json.depthItems (items.map Json.text) ≤ 0 := by
    refine Json.depthItems_le_iff.2 fun item mem => ?_
    obtain ⟨s, -, rfl⟩ := List.mem_map.1 mem
    exact Nat.le.refl
  rw [Json.depth]
  omega

/-- A list of texts is read from an array of the texts. -/
theorem texts_of_decode {room : Nat} {outline : Outline} {items : List String}
    (h : Decoder.list Decoder.text room outline = .ok items) :
    outline = Outline.ofJson (.array (items.map .text)) ∧
      (Json.array (items.map .text)).depth ≤ room := by
  obtain ⟨less, outlines, rfl, rfl, all⟩ := Decoder.list_eq_ok_iff.1 h
  have same : List.Forall₂ (· = ·) outlines (items.map fun s => Outline.ofJson (.text s)) :=
    List.forall₂_map_right_iff.2 (all.imp fun _ _ => text_of_decode)
  rw [List.forall₂_eq_eq_eq] at same
  subst same
  rw [Outline.ofJson, Outline.ofItems_eq_map, List.map_map, depth_texts]
  exact ⟨rfl, Nat.le_add_left _ _⟩

theorem binary_of_binaryOf {code : String} {bytes : List UInt8}
    (h : binaryOf code = .ok bytes) :
    Base64.IsCanonical code.toList ∧ Base64.encode bytes = code := by
  unfold binaryOf at h
  split at h
  · rename_i read
    cases h
    exact ⟨Base64.exists_decode_iff.1 ⟨_, read⟩, Base64.encode_of_decode read⟩
  · cases h

theorem binaries_of_mapM {codes : List String} {items : List (List UInt8)}
    (h : codes.mapM binaryOf = .ok items) :
    (∀ code ∈ codes, Base64.IsCanonical code.toList) ∧ items.map Base64.encode = codes := by
  have all := (Decoder.mapM_eq_ok_iff.1 h).imp fun _ _ => binary_of_binaryOf
  obtain ⟨canonical, same⟩ := (List.forall₂_and_left _ _).1 all
  refine ⟨canonical, ?_⟩
  rw [← List.forall₂_eq_eq_eq, List.forall₂_map_left_iff]
  exact same.flip

/-- A value whose payload is written as it was read says what the document says. -/
theorem readFrom_of_payload {room : Nat} {tree : Tree} {payload : Json}
    (accepted : IsAttributeValue (tagged tree.type payload)) (nested : payload.depth ≤ room)
    (same : tree.payload.canonical = payload.canonical) :
    ReadFrom (room + 1) tree (tagged tree.type payload) where
  accepted := accepted
  nested := by rw [depth_tagged]; omega
  same := by rw [toJson, canonical_tagged, canonical_tagged, same]

theorem readFrom_list {room : Nat} {trees : List Tree} {documents : List Json}
    (h : List.Forall₂ (ReadFrom room) trees documents) :
    ReadFrom (room + 2) (.list trees) (tagged .list (.array documents)) := by
  have all : (∀ document ∈ documents, IsAttributeValue document ∧ document.depth ≤ room) ∧
      (trees.map toJson).map Json.canonical = documents.map Json.canonical := by
    induction h with
    | nil => exact ⟨fun _ mem => absurd mem List.not_mem_nil, rfl⟩
    | cons first _ ih =>
        exact ⟨List.forall_mem_cons.2 ⟨⟨first.accepted, first.nested⟩, ih.1⟩,
          congrArg₂ List.cons first.same ih.2⟩
  obtain ⟨values, same⟩ := all
  refine readFrom_of_payload (.list fun document mem => (values document mem).1) ?_ ?_
  · exact Nat.succ_le_succ (Json.depthItems_le_iff.2 fun document mem => (values document mem).2)
  · rw [payload, writtenItems_eq_map, Json.canonical_array, Json.canonical_array, same]

theorem readFrom_map {room : Nat} {pairs : List (String × Tree)} {members : List (String × Json)}
    (h : List.Forall₂ (fun pair member => pair.1 = member.1 ∧ ReadFrom room pair.2 member.2)
      pairs members) :
    ReadFrom (room + 2) (.map (Entries.ofList pairs)) (tagged .map (.object members)) := by
  have all : (∀ member ∈ members, IsAttributeValue member.2 ∧ member.2.depth ≤ room) ∧
      (pairs.map fun pair => (pair.1, pair.2.toJson.canonical)) =
        members.map fun member => (member.1, member.2.canonical) := by
    induction h with
    | nil => exact ⟨fun _ mem => absurd mem List.not_mem_nil, rfl⟩
    | cons first _ ih =>
        exact ⟨List.forall_mem_cons.2 ⟨⟨first.2.accepted, first.2.nested⟩, ih.1⟩,
          congrArg₂ List.cons (congrArg₂ Prod.mk first.1 first.2.same) ih.2⟩
  obtain ⟨values, same⟩ := all
  refine readFrom_of_payload (.map fun member mem => (values member mem).1) ?_ ?_
  · exact Nat.succ_le_succ (Json.depthMembers_le_iff.2 fun member mem => (values member mem).2)
  · -- The entries of the tree are the last ones of each name already.
    have kept := Entries.ofList_of_ordered
      (Entries.ordered_map (f := fun tree : Tree => tree.toJson.canonical)
        (Entries.ordered_ofList pairs))
    rw [payload, writtenEntries_eq_map, Json.canonical_object, Json.canonical_object, List.map_map,
      ← same, Entries.ofList_map fun tree : Tree => tree.toJson.canonical]
    exact congrArg Json.object kept

theorem decodeItems_eq (room : Nat) (closed : Bool) (outlines : List Outline) :
    decodeItems room closed outlines = Decoder.itemsOf decode room closed outlines := by
  induction outlines with
  | nil => rfl
  | cons outline rest ih => rw [decodeItems, Decoder.itemsOf, ih]

theorem decodeMembers_eq (room : Nat) (closed : Bool) (members : List (Option String × Outline)) :
    decodeMembers room closed members = Decoder.membersOf decode room closed members := by
  induction members with
  | nil => rfl
  | cons member rest ih =>
      obtain ⟨_ | name, outline⟩ := member
      · rfl
      · rw [decodeMembers, Decoder.membersOf, ih]

theorem decodePayload_list (room : Nat) (outline : Outline) :
    decodePayload room .list outline = (Decoder.list decode room outline).map .list := by
  cases outline with
  | array items closed =>
      cases room with
      | zero => rfl
      | succ room => rw [decodePayload, Decoder.list, decodeItems_eq]
  | _ => cases room <;> rfl

theorem decodePayload_map (room : Nat) (outline : Outline) :
    decodePayload room .map outline =
      (Decoder.map decode room outline).map fun entries => .map entries.entries := by
  cases outline with
  | object members closed =>
      cases room with
      | zero => rfl
      | succ room =>
          rw [decodePayload, Decoder.map, decodeMembers_eq]
          cases Decoder.membersOf decode room closed members <;> rfl
  | _ => cases room <;> rfl

theorem key_of_ofKey? {name : String} {type : AttributeType}
    (h : AttributeType.ofKey? name = some type) : type.key = name := by
  simpa using List.find?_some h

/-- A tree is read from an object with one member, by the type that the member names. -/
theorem decode_eq_ok_iff {room : Nat} {outline : Outline} {tree : Tree} :
    decode room outline = .ok tree ↔
      ∃ less type payload, room = less + 1 ∧ outline = .object [(some type.key, payload)] true ∧
        decodePayload less type payload = .ok tree := by
  constructor
  · intro h
    unfold decode at h
    split at h
    · rename_i less key payload rest closed
      split at h
      · cases h
      · rename_i type named
        split at h
        · cases h
        · rename_i found decoded
          split at h
          · cases closed <;> simp at h
            subst h
            rw [← key_of_ofKey? named]
            exact ⟨less, type, payload, rfl, rfl, decoded⟩
          · cases h
          · cases h
    · cases h
    · cases h
    · cases h
  · rintro ⟨less, type, payload, rfl, rfl, decoded⟩
    rw [decode, AttributeType.ofKey?_key]
    simp only [decoded]
    rfl

/-- What the payload of a type is read from, given what values inside it are read from. -/
theorem exists_payload {room : Nat} {type : AttributeType} {outline : Outline} {tree : Tree}
    (inner : ∀ less < room, ∀ outline tree, decode less outline = .ok tree →
      ∃ document, outline = Outline.ofJson document ∧ ReadFrom less tree document)
    (h : decodePayload room type outline = .ok tree) :
    ∃ payload, outline = Outline.ofJson payload ∧
      ReadFrom (room + 1) tree (tagged type payload) := by
  cases type with
  | text =>
      rw [decodePayload] at h
      obtain ⟨s, decoded, rfl⟩ := map_eq_ok h
      exact ⟨.text s, text_of_decode decoded, readFrom_of_payload (.text s) (Nat.zero_le _) rfl⟩
  | number =>
      rw [decodePayload] at h
      obtain ⟨digits, decoded, rfl⟩ := map_eq_ok h
      exact ⟨.text digits, text_of_decode decoded,
        readFrom_of_payload (.number digits) (Nat.zero_le _) rfl⟩
  | binary =>
      rw [decodePayload] at h
      obtain ⟨code, decoded, h⟩ := bind_eq_ok h
      obtain ⟨bytes, read, h⟩ := bind_eq_ok h
      cases h
      obtain ⟨canonical, same⟩ := binary_of_binaryOf read
      refine ⟨.text code, text_of_decode decoded,
        readFrom_of_payload (.binary canonical) (Nat.zero_le _) ?_⟩
      rw [payload, same]
  | texts =>
      rw [decodePayload] at h
      obtain ⟨items, decoded, rfl⟩ := map_eq_ok h
      obtain ⟨shown, nested⟩ := texts_of_decode decoded
      exact ⟨_, shown, readFrom_of_payload (.texts items) nested rfl⟩
  | numbers =>
      rw [decodePayload] at h
      obtain ⟨items, decoded, rfl⟩ := map_eq_ok h
      obtain ⟨shown, nested⟩ := texts_of_decode decoded
      exact ⟨_, shown, readFrom_of_payload (.numbers items) nested rfl⟩
  | binaries =>
      rw [decodePayload] at h
      obtain ⟨codes, decoded, h⟩ := bind_eq_ok h
      obtain ⟨items, read, h⟩ := bind_eq_ok h
      cases h
      obtain ⟨shown, nested⟩ := texts_of_decode decoded
      obtain ⟨canonical, same⟩ := binaries_of_mapM read
      refine ⟨_, shown, readFrom_of_payload (.binaries canonical) nested ?_⟩
      rw [payload_binaries, same]
  | bool =>
      rw [decodePayload] at h
      obtain ⟨b, decoded, rfl⟩ := map_eq_ok h
      exact ⟨.bool b, bool_of_decode decoded, readFrom_of_payload (.bool b) (Nat.zero_le _) rfl⟩
  | null =>
      rw [decodePayload] at h
      obtain ⟨b, decoded, rfl⟩ := map_eq_ok h
      exact ⟨.bool b, bool_of_decode decoded, readFrom_of_payload (.null b) (Nat.zero_le _) rfl⟩
  | list =>
      rw [decodePayload_list] at h
      obtain ⟨trees, decoded, rfl⟩ := map_eq_ok h
      obtain ⟨less, outlines, rfl, rfl, all⟩ := Decoder.list_eq_ok_iff.1 decoded
      obtain ⟨documents, rfl, read⟩ :=
        exists_map_of_forall₂ (all.imp (inner less less.lt_succ_self))
      rw [← Outline.ofItems_eq_map]
      exact ⟨.array documents, rfl, readFrom_list read⟩
  | map =>
      rw [decodePayload_map] at h
      obtain ⟨entries, decoded, rfl⟩ := map_eq_ok h
      obtain ⟨less, members, pairs, rfl, rfl, all, rfl⟩ := Decoder.map_eq_ok_iff.1 decoded
      obtain ⟨written, rfl, read⟩ := exists_map_of_forall₂
        (f := fun member : String × Json => (some member.1, Outline.ofJson member.2))
        (R := fun pair member => pair.1 = member.1 ∧ ReadFrom less pair.2 member.2)
        (all.imp fun member pair h => by
          obtain ⟨document, shown, read⟩ := inner less less.lt_succ_self _ _ h.2
          exact ⟨(pair.1, document), Prod.ext h.1 shown, rfl, read⟩)
      rw [← Outline.ofMembers_eq_map]
      exact ⟨.object written, rfl, readFrom_map read⟩

/-- What is read is read from a document that stands for a value. -/
theorem exists_document {room : Nat} {outline : Outline} {tree : Tree}
    (h : decode room outline = .ok tree) :
    ∃ document, outline = Outline.ofJson document ∧ ReadFrom room tree document := by
  -- Values inside a value are read with less room, whatever their place in the outline.
  induction room using Nat.strongRecOn generalizing outline tree with
  | ind room ih =>
      obtain ⟨less, type, payload, rfl, rfl, decoded⟩ := decode_eq_ok_iff.1 h
      obtain ⟨document, rfl, read⟩ := exists_payload
        (fun lower lt outline tree => ih lower (Nat.lt_succ_of_lt lt)) decoded
      exact ⟨tagged type document, rfl, read⟩

/-! ### What is accepted -/

theorem exists_mapM_binaryOf {codes : List String}
    (canonical : ∀ code ∈ codes, Base64.IsCanonical code.toList) :
    ∃ items, codes.mapM binaryOf = .ok items := by
  have read : ∀ code ∈ codes, ∃ bytes, binaryOf code = .ok bytes := fun code mem => by
    obtain ⟨bytes, read⟩ := Base64.exists_decode_iff.2 (canonical code mem)
    exact ⟨bytes, by rw [binaryOf, read]⟩
  obtain ⟨items, all⟩ := exists_forall₂ read
  exact ⟨items, Decoder.mapM_eq_ok_iff.2 all⟩

theorem exists_decode_tagged (type : AttributeType) {payload : Json} {room : Nat}
    (nested : (tagged type payload).depth ≤ room)
    (inner : ∀ less, payload.depth ≤ less →
      ∃ tree, decodePayload less type (Outline.ofJson payload) = .ok tree) :
    ∃ tree, decode room (Outline.ofJson (tagged type payload)) = .ok tree := by
  rw [depth_tagged] at nested
  obtain ⟨less, rfl⟩ : ∃ less, room = less + 1 := ⟨room - 1, by omega⟩
  obtain ⟨tree, decoded⟩ := inner less (by omega)
  exact ⟨tree, decode_tagged decoded⟩

theorem exists_decodePayload_list {items : List Json} {room : Nat}
    (nested : (Json.array items).depth ≤ room)
    (each : ∀ item ∈ items, ∀ {room : Nat}, item.depth ≤ room →
      ∃ tree, decode room (Outline.ofJson item) = .ok tree) :
    ∃ tree, decodePayload room .list (Outline.ofJson (.array items)) = .ok tree := by
  obtain ⟨less, rfl, shallow⟩ := Json.depth_array_le_iff.1 nested
  obtain ⟨trees, all⟩ := exists_forall₂ fun item mem => each item mem (shallow item mem)
  have decoded : Decoder.list decode (less + 1) (Outline.ofJson (.array items)) = .ok trees := by
    refine Decoder.list_eq_ok_iff.2 ⟨less, _, rfl, rfl, ?_⟩
    rw [Outline.ofItems_eq_map, List.forall₂_map_left_iff]
    exact all
  exact ⟨.list trees, by rw [decodePayload_list, decoded]; rfl⟩

theorem exists_decodePayload_map {members : List (String × Json)} {room : Nat}
    (nested : (Json.object members).depth ≤ room)
    (each : ∀ member ∈ members, ∀ {room : Nat}, member.2.depth ≤ room →
      ∃ tree, decode room (Outline.ofJson member.2) = .ok tree) :
    ∃ tree, decodePayload room .map (Outline.ofJson (.object members)) = .ok tree := by
  obtain ⟨less, rfl, shallow⟩ := Json.depth_object_le_iff.1 nested
  obtain ⟨pairs, all⟩ : ∃ pairs : List (String × Tree), List.Forall₂
      (fun member pair => some member.1 = some pair.1 ∧
        decode less (Outline.ofJson member.2) = .ok pair.2) members pairs :=
    exists_forall₂ fun member mem => by
      obtain ⟨tree, decoded⟩ := each member mem (shallow member mem)
      exact ⟨(member.1, tree), rfl, decoded⟩
  have decoded : Decoder.map decode (less + 1) (Outline.ofJson (.object members)) =
      .ok (NameMap.ofList pairs) := by
    refine Decoder.map_eq_ok_iff.2 ⟨less, _, pairs, rfl, rfl, ?_, rfl⟩
    rw [Outline.ofMembers_eq_map, List.forall₂_map_left_iff]
    exact all
  exact ⟨.map (Entries.ofList pairs), by rw [decodePayload_map, decoded]; rfl⟩

/-- A document that stands for a value is decoded wherever there is room for it. -/
theorem exists_decode {document : Json} (h : IsAttributeValue document) {room : Nat}
    (nested : document.depth ≤ room) :
    ∃ tree, decode room (Outline.ofJson document) = .ok tree := by
  induction h generalizing room with
  | text s => exact exists_decode_tagged .text nested fun _ _ => ⟨.text s, rfl⟩
  | number digits =>
      exact exists_decode_tagged .number nested fun _ _ => ⟨.number digits, rfl⟩
  | bool b => exact exists_decode_tagged .bool nested fun _ _ => ⟨.bool b, rfl⟩
  | null b => exact exists_decode_tagged .null nested fun _ _ => ⟨.null b, rfl⟩
  | @binary code canonical =>
      refine exists_decode_tagged .binary nested fun less _ => ?_
      obtain ⟨bytes, read⟩ := Base64.exists_decode_iff.2 canonical
      refine ⟨.binary bytes, ?_⟩
      show decodePayload less .binary (.string (some code)) = _
      rw [decodePayload]
      simp only [Decoder.text, bind, Except.bind, binaryOf, read]
      rfl
  | texts items =>
      refine exists_decode_tagged .texts nested fun less shallow => ⟨.texts items, ?_⟩
      rw [decodePayload, decode_texts shallow]
      rfl
  | numbers items =>
      refine exists_decode_tagged .numbers nested fun less shallow => ⟨.numbers items, ?_⟩
      rw [decodePayload, decode_texts shallow]
      rfl
  | binaries canonical =>
      refine exists_decode_tagged .binaries nested fun less shallow => ?_
      obtain ⟨items, read⟩ := exists_mapM_binaryOf canonical
      refine ⟨.binaries items, ?_⟩
      rw [decodePayload, decode_texts shallow]
      simp only [bind, Except.bind, read]
      rfl
  | list _ ih =>
      exact exists_decode_tagged .list nested fun less shallow =>
        exists_decodePayload_list shallow ih
  | map _ ih =>
      exact exists_decode_tagged .map nested fun less shallow =>
        exists_decodePayload_map shallow ih

end Tree

namespace Value

theorem tree_of_decode {value : Value} {room : Nat} {outline : Outline}
    (h : decode room outline = .ok value) : Tree.decode room outline = .ok value.tree := by
  unfold decode at h
  split at h
  · rename_i eq
    cases h
    exact eq
  · cases h

/--
A text is read as a value exactly when it is that of a document that stands for one, and nests at
most 127 arrays and objects. What is written for the value that was read is the document, if the
last member of each name counts and order means nothing.
-/
theorem read_accepts_grammar (source : Text.Source) :
    ((∃ value, codec.read source = .ok value) ↔
      ∃ document, IsTextOf source document ∧ document.depth ≤ 127 ∧ IsAttributeValue document) ∧
      ∀ value document, codec.read source = .ok value → IsTextOf source document →
        (codec.encode value).canonical = document.canonical := by
  have origin (value : Value) (h : codec.read source = .ok value) :
      ∃ document, IsTextOf source document ∧ Tree.ReadFrom 127 value.tree document := by
    obtain ⟨decoded, ended⟩ := Decoder.read_eq_ok_iff.1 h
    obtain ⟨document, shown, read⟩ := Tree.exists_document (tree_of_decode decoded)
    refine ⟨document, Json.isTextOf_iff_read.2 ?_, read⟩
    rw [← shown, ← ended]
  refine ⟨⟨?_, ?_⟩, ?_⟩
  · rintro ⟨value, h⟩
    obtain ⟨document, text, read⟩ := origin value h
    exact ⟨document, text, read.nested, read.accepted⟩
  · rintro ⟨document, text, nested, accepted⟩
    obtain ⟨tree, decoded⟩ := Tree.exists_decode accepted nested
    refine ⟨⟨tree, Tree.canonical_of_decode _ decoded⟩, Decoder.read_eq_ok_iff.2 ?_⟩
    rw [Json.isTextOf_iff_read.1 text]
    exact ⟨decode_eq decoded, rfl⟩
  · intro value document h text
    obtain ⟨other, otherText, read⟩ := origin value h
    rw [text.unique otherText]
    exact read.same

/-- A map in which a name has two values, the first of them binary data. -/
def repeatedName : Json :=
  .object [("M", .object [
    ("b", .object [("BS", .array [.text "AP8=", .text ""])]),
    ("a", .object [("N", .text "1e3")]),
    ("b", .object [("L", .array [.object [("NULL", .bool false)]])])])]

theorem read_accepts_grammar_of_repeatedName :
    ∃ value, codec.read (.ofBytes (Text.utf8 repeatedName.print)) = .ok value ∧
      (codec.encode value).canonical = repeatedName.canonical := by
  have text : IsTextOf (.ofBytes (Text.utf8 repeatedName.print)) repeatedName :=
    Json.isTextOf_print (by decide +kernel)
  have codes : ∀ code ∈ ["AP8=", ""], Base64.IsCanonical code.toList := by
    refine List.forall_mem_cons.2 ⟨?_, List.forall_mem_singleton.2 .nil⟩
    exact .two (by decide +kernel) (by decide +kernel) (by decide +kernel)
  have accepted : IsAttributeValue repeatedName := by
    refine .map (List.forall_mem_cons.2 ⟨?_, List.forall_mem_cons.2 ⟨?_,
      List.forall_mem_singleton.2 ?_⟩⟩)
    · exact .binaries codes
    · exact .number "1e3"
    · exact .list (List.forall_mem_singleton.2 (.null false))
  obtain ⟨accepts, keeps⟩ := read_accepts_grammar (.ofBytes (Text.utf8 repeatedName.print))
  obtain ⟨value, read⟩ := accepts.2 ⟨repeatedName, text, by decide +kernel, accepted⟩
  exact ⟨value, read, keeps value repeatedName read text⟩

end Value

end ItemStore
