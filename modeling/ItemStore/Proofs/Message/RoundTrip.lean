import Mathlib
import ItemStore.Http.Exchange
import ItemStore.Message.Response
import ItemStore.Proofs.Json.Records
import ItemStore.Proofs.Value.Grammar

/-!
# ItemStore.Proofs.Message.RoundTrip

Requests and answers that are written as bodies and read from them.

The fields of a message are described one by one, each with its own name and default, and so is what
is read back of them; `Http.messages_carried` puts them together. Only the figures about costs are
floating-point numbers, so answers with none of those are read back like requests are.
-/

namespace ItemStore

open Json (Codec Decoder Field Outline Record)

/-! ### Values -/

namespace Tree

/-- A value with the key of its type is read if the value is. -/
theorem reads_tagged (type : AttributeType) {payload : Json} {tree : Tree}
    (h : Decoder.Reads (fun room => decodePayload room type) payload tree) :
    Decoder.Reads decode (tagged type payload) tree := by
  have names : ([(type.key, payload)].map Prod.fst).Nodup := List.nodup_singleton _
  have arranged {document : Json} (whole : document.Arranges (tagged type payload)) :
      ∃ inner, document = tagged type inner ∧ inner.Arranges payload := by
    obtain ⟨members, ordered, rfl, perm, all⟩ := whole.object names
    rw [List.perm_singleton.1 perm] at all
    obtain ⟨⟨_, inner⟩, _, ⟨rfl, arranges⟩, none, rfl⟩ := List.forall₂_cons_right_iff.1 all
    rw [List.forall₂_nil_right_iff.1 none]
    exact ⟨inner, rfl, arranges⟩
  constructor
  · exact .object names (List.forall_mem_singleton.2 h.distinct)
  · exact nofun
  · intro document whole
    obtain ⟨inner, rfl, arranges⟩ := arranged whole
    rw [isNumberFree_tagged]
    exact h.numberFree arranges
  · intro document room whole nested
    obtain ⟨inner, rfl, arranges⟩ := arranged whole
    rw [depth_tagged] at nested
    obtain ⟨less, rfl⟩ : ∃ less, room = less + 1 := ⟨room - 1, by omega⟩
    exact decode_tagged (h.decoded arranges (by omega))

/-- A value is read if its payload is, by the decoder that the type calls for. -/
theorem reads_payload (type : AttributeType) {α : Type} {inner : Decoder α} {f : α → Tree}
    {payload : Json} {a : α}
    (same : ∀ room outline, decodePayload room type outline = (inner room outline).map f)
    (h : inner.Reads payload a) : Decoder.Reads decode (tagged type payload) (f a) :=
  reads_tagged type <| h.imp fun room outline decoded => by
    rw [same, decoded]
    rfl

mutual

/-- A tree that is in order is read from what is written for it. -/
theorem reads_toJson : (tree : Tree) → tree.Canonical → Decoder.Reads decode tree.toJson tree
  | .text s, _ => reads_payload .text (fun _ _ => by rw [decodePayload]) (Decoder.reads_text s)
  | .number digits, _ =>
      reads_payload .number (fun _ _ => by rw [decodePayload]) (Decoder.reads_text digits)
  | .binary bytes, _ =>
      reads_tagged .binary <| (Decoder.reads_text (Base64.encode bytes)).imp fun _ _ decoded => by
        rw [decodePayload, decoded]
        simp only [bind, Except.bind, binaryOf_encode]
        rfl
  | .texts items, _ =>
      reads_payload .texts (fun _ _ => by rw [decodePayload]) (Decoder.reads_texts items)
  | .numbers items, _ =>
      reads_payload .numbers (fun _ _ => by rw [decodePayload]) (Decoder.reads_texts items)
  | .binaries items, _ => by
      rw [toJson, payload_binaries]
      exact reads_tagged .binaries <| (Decoder.reads_texts _).imp fun _ _ decoded => by
        rw [decodePayload, decoded]
        simp only [bind, Except.bind, mapM_binaryOf]
        rfl
  | .bool b, _ => reads_payload .bool (fun _ _ => by rw [decodePayload]) (Decoder.reads_bool b)
  | .null b, _ => reads_payload .null (fun _ _ => by rw [decodePayload]) (Decoder.reads_bool b)
  | .list items, canonical => by
      have all : (Codec.list ⟨toJson, decode⟩).ReadsBack items :=
        Codec.ReadsBack.list (reads_items items canonical)
      rw [toJson, payload, writtenItems_eq_map]
      exact reads_payload .list decodePayload_list all
  | .map entries, canonical => by
      have all : (Codec.map ⟨toJson, decode⟩).ReadsBack ⟨entries, canonical.1⟩ :=
        Codec.ReadsBack.map (reads_entries entries canonical.2)
      rw [toJson, payload, writtenEntries_eq_map]
      exact reads_payload .map (f := fun map : NameMap Tree => .map map.entries)
        decodePayload_map all

theorem reads_items : (items : List Tree) → AllCanonical items →
    ∀ item ∈ items, Decoder.Reads decode item.toJson item
  | [], _ => fun _ mem => absurd mem List.not_mem_nil
  | item :: rest, canonical =>
      List.forall_mem_cons.2 ⟨reads_toJson item canonical.1, reads_items rest canonical.2⟩

theorem reads_entries : (entries : List (String × Tree)) → EntriesCanonical entries →
    ∀ entry ∈ entries, Decoder.Reads decode entry.2.toJson entry.2
  | [], _ => fun _ mem => absurd mem List.not_mem_nil
  | (_, tree) :: rest, canonical =>
      List.forall_mem_cons.2 ⟨reads_toJson tree canonical.1, reads_entries rest canonical.2⟩

end

end Tree

theorem Value.readsBack (value : Value) : Value.codec.ReadsBack value :=
  (Tree.reads_toJson value.tree value.canonical).imp fun _ _ => Value.decode_eq

theorem Item.readsBack (item : Item) : Item.codec.ReadsBack item :=
  Codec.ReadsBack.map fun entry _ => entry.2.readsBack

/-! ### Requests -/

theorem readsBack_names (name : String) (names : NameMap String) :
    (Field.mapping name Codec.text).ReadsBack names :=
  Field.readsBack_mapping fun entry _ => Codec.readsBack_text entry.2

theorem readsBack_expression (name : String) (expression : Option String) :
    (Field.optional name Codec.text).ReadsBack expression :=
  Field.readsBack_optional fun s _ => Codec.readsBack_text s

theorem readsBack_flag (name : String) (flag : Option Bool) :
    (Field.optional name Codec.bool).ReadsBack flag :=
  Field.readsBack_optional fun b _ => Codec.readsBack_bool b

theorem readsBack_values (name : String) (values : NameMap Value) :
    (Field.mapping name Value.codec).ReadsBack values :=
  Field.readsBack_mapping fun entry _ => entry.2.readsBack

theorem ReturnValues.readsBack (a : ReturnValues) : choices.codec.ReadsBack a :=
  Codec.readsBack_choice (by cases a <;> rfl)

theorem CapacityDetail.readsBack (a : CapacityDetail) : choices.codec.ReadsBack a :=
  Codec.readsBack_choice (by cases a <;> rfl)

theorem MetricsDetail.readsBack (a : MetricsDetail) : choices.codec.ReadsBack a :=
  Codec.readsBack_choice (by cases a <;> rfl)

theorem GetRequest.readsBack (request : GetRequest) : record.codec.ReadsBack request := by
  refine Record.readsBack (by decide) ?_ rfl
  exact ⟨Field.readsBack_required (Codec.readsBack_text _),
    Field.readsBack_required request.key.readsBack, readsBack_expression _ _,
    readsBack_names _ _, readsBack_flag _ _, trivial⟩

theorem TableKeys.readsBack (keys : TableKeys) : record.codec.ReadsBack keys := by
  refine Record.readsBack (by decide) ?_ rfl
  exact ⟨Field.readsBack_required (Codec.ReadsBack.list fun item _ => item.readsBack),
    readsBack_expression _ _, readsBack_names _ _, readsBack_flag _ _, trivial⟩

theorem BatchGetRequest.readsBack (request : BatchGetRequest) :
    record.codec.ReadsBack request := by
  refine Record.readsBack (by decide) ?_ rfl
  exact ⟨Field.readsBack_required (Codec.ReadsBack.map fun entry _ => entry.2.readsBack), trivial⟩

theorem UpdateRequest.readsBack (request : UpdateRequest) : record.codec.ReadsBack request := by
  refine Record.readsBack (by decide) ?_ rfl
  exact ⟨Field.readsBack_required (Codec.readsBack_text _),
    Field.readsBack_required request.key.readsBack,
    Field.readsBack_defaulted request.returnValues.readsBack, readsBack_expression _ _,
    readsBack_expression _ _, readsBack_names _ _, readsBack_values _ _,
    Field.readsBack_optional fun a _ => a.readsBack,
    Field.readsBack_optional fun a _ => a.readsBack, trivial⟩

/-! ### Answers -/

/-- A field that is absent is read back, whatever it would be written as. -/
theorem readsBack_none {α : Type} (name : String) (codec : Codec α) :
    (Field.optional name codec).ReadsBack none :=
  Field.readsBack_optional nofun

theorem GetResponse.readsBack {response : GetResponse} (free : response.capacity = none) :
    record.codec.ReadsBack response := by
  refine Record.readsBack (by decide) ?_ rfl
  exact ⟨Field.readsBack_optional fun item _ => item.readsBack, free ▸ readsBack_none _ _, trivial⟩

theorem BatchGetResponse.readsBack {response : BatchGetResponse} (free : response.capacity = []) :
    record.codec.ReadsBack response := by
  refine Record.readsBack (by decide) ?_ rfl
  exact ⟨Field.readsBack_defaulted (Codec.ReadsBack.map fun entry _ =>
      Codec.ReadsBack.list fun item _ => item.readsBack),
    Field.readsBack_mapping fun entry _ => entry.2.readsBack,
    free ▸ Field.readsBack_listing fun _ mem => absurd mem List.not_mem_nil, trivial⟩

theorem UpdateResponse.readsBack {response : UpdateResponse} (noCapacity : response.capacity = none)
    (noMetrics : response.metrics = none) : record.codec.ReadsBack response := by
  refine Record.readsBack (by decide) ?_ rfl
  exact ⟨readsBack_values _ _, noCapacity ▸ readsBack_none _ _, noMetrics ▸ readsBack_none _ _,
    trivial⟩

/-! ### Bodies -/

namespace Http

/--
A message that nests at most 127 arrays and objects is written as a body, and read from it as it
was. Its body may also be any other arrangement of what is written for it.
-/
structure Carried {α : Type} (codec : Codec α) (message : α) : Prop where
  written : (codec.encode message).depth ≤ 127 →
    ∃ bytes, encode (.ok (codec.encode message)) = .ok bytes ∧
      codec.read (.ofBytes bytes) = .ok message
  arranged : ∀ document : Json, document.Arranges (codec.encode message) → document.depth ≤ 127 →
    ∃ bytes, encode (.ok document) = .ok bytes ∧ codec.read (.ofBytes bytes) = .ok message

theorem carried_of_readsBack {α : Type} {codec : Codec α} {message : α}
    (h : codec.ReadsBack message) : Carried codec message := by
  have arranged (document : Json) (arranges : document.Arranges (codec.encode message))
      (nested : document.depth ≤ 127) :
      ∃ bytes, encode (.ok document) = .ok bytes ∧ codec.read (.ofBytes bytes) = .ok message :=
    ⟨_, rfl, Decoder.read_print (h.numberFree arranges) (h.decoded arranges nested)⟩
  exact ⟨arranged _ h.distinct.arranges, arranged⟩

/--
Every request is carried by its body, and so is every answer that tells nothing about costs. Options
that are absent and maps that are empty are left out and come back as such; an item that is there
without attributes is not left out.
-/
theorem messages_carried :
    (∀ request, Carried GetRequest.record.codec request) ∧
    (∀ request, Carried BatchGetRequest.record.codec request) ∧
    (∀ request, Carried UpdateRequest.record.codec request) ∧
    (∀ response, response.capacity = none → Carried GetResponse.record.codec response) ∧
    (∀ response, response.capacity = [] → Carried BatchGetResponse.record.codec response) ∧
    (∀ response, response.capacity = none → response.metrics = none →
      Carried UpdateResponse.record.codec response) ∧
    GetResponse.record.codec.encode { item := none } = .object [] ∧
    GetResponse.record.codec.encode { item := some ∅ } = .object [("Item", .object [])] :=
  ⟨fun request => carried_of_readsBack request.readsBack,
    fun request => carried_of_readsBack request.readsBack,
    fun request => carried_of_readsBack request.readsBack,
    fun _ free => carried_of_readsBack (GetResponse.readsBack free),
    fun _ free => carried_of_readsBack (BatchGetResponse.readsBack free),
    fun _ noCapacity noMetrics =>
      carried_of_readsBack (UpdateResponse.readsBack noCapacity noMetrics),
    rfl, rfl⟩

/-- An answer with two attributes. -/
def answer : GetResponse :=
  { item := some (.ofList [("a", .text "x"), ("b", .numbers ["1", "1e3"])]) }

/-- The same answer, written with its attributes in another order. -/
def arrangedAnswer : Json :=
  .object [("Item", .object [
    ("b", .object [("NS", .array [.text "1", .text "1e3"])]),
    ("a", .object [("S", .text "x")])])]

/-- An answer with an item and without, and with a key that is left to read. -/
def batchAnswer : BatchGetResponse where
  responses := .ofList [("t", [.singleton "k" (.binary [0, 255]), ∅]), ("u", [])]
  unprocessed := .singleton "u" { keys := [.singleton "k" (.text "\"\n")] }

theorem messages_carried_of_answers :
    (∃ bytes, encode (.ok arrangedAnswer) = .ok bytes ∧
      GetResponse.record.codec.read (.ofBytes bytes) = .ok answer) ∧
    (∃ bytes, encode (.ok (BatchGetResponse.record.codec.encode batchAnswer)) = .ok bytes ∧
      BatchGetResponse.record.codec.read (.ofBytes bytes) = .ok batchAnswer) ∧
    (∃ bytes, encode (.ok (UpdateResponse.record.codec.encode {})) = .ok bytes ∧
      UpdateResponse.record.codec.read (.ofBytes bytes) = .ok {}) := by
  obtain ⟨-, -, -, get, batch, update, -⟩ := messages_carried
  have distinct : arrangedAnswer.HasDistinctNames := by
    refine .object (by decide) (List.forall_mem_singleton.2 (.object (by decide) ?_))
    refine List.forall_mem_cons.2 ⟨?_, List.forall_mem_singleton.2 ?_⟩
    · refine .object (by decide) (List.forall_mem_singleton.2 (.array ?_))
      exact List.forall_mem_cons.2 ⟨.text _, List.forall_mem_singleton.2 (.text _)⟩
    · exact .object (by decide) (List.forall_mem_singleton.2 (.text _))
  exact ⟨(get answer rfl).arranged arrangedAnswer ⟨rfl, distinct⟩ (by decide +kernel),
    (batch batchAnswer rfl).written (by decide +kernel),
    (update {} rfl rfl).written (by decide +kernel)⟩

end Http

end ItemStore
