import Mathlib
import ItemStore.Proofs.Json.Numbers
import ItemStore.Proofs.Value.Documents

/-!
# ItemStore.Proofs.Value.Image

The attribute values that documents become: they are equal for documents that say the same and for
no others, and they are made of null, truth values, texts, numbers, lists and maps only.
-/

namespace ItemStore

/-- A list of things that are each made of something is made of a list. -/
theorem exists_map_eq {α β : Type} {f : α → β} {P : α → Prop} {list : List β}
    (each : ∀ b ∈ list, ∃ a, P a ∧ f a = b) : ∃ as : List α, (∀ a ∈ as, P a) ∧ as.map f = list := by
  induction list with
  | nil => exact ⟨[], nofun, rfl⟩
  | cons b rest ih =>
      obtain ⟨first, others⟩ := List.forall_mem_cons.1 each
      obtain ⟨a, is, made⟩ := first
      obtain ⟨as, are, madeToo⟩ := ih others
      exact ⟨a :: as, List.forall_mem_cons.2 ⟨is, are⟩, by rw [List.map_cons, made, madeToo]⟩

namespace Tree

/-! ### Documents with the same tree -/

/-- Objects with the same tree say the same, if their members do. -/
theorem canonical_object_eq {members others : List (String × Json)}
    (each : ∀ member ∈ members, ∀ other, ofJson member.2 = ofJson other →
      member.2.canonical = other.canonical)
    (same : ofJson (.object members) = ofJson (.object others)) :
    (Json.object members).canonical = (Json.object others).canonical := by
  rw [ofJson, ofJson, ofMembers_eq_map, ofMembers_eq_map, Tree.map.injEq] at same
  rw [Json.canonical_object, Json.canonical_object, Json.object.injEq]
  refine Entries.ext_find? (Entries.ordered_ofList _) (Entries.ordered_ofList _) fun name => ?_
  rw [Entries.find?_ofList, Entries.find?_ofList, Entries.last?_map, Entries.last?_map]
  have last : (Entries.last? members name).map ofJson = (Entries.last? others name).map ofJson := by
    rw [← Entries.last?_map, ← Entries.last?_map, ← Entries.find?_ofList, ← Entries.find?_ofList,
      same]
  cases found : Entries.last? members name with
  | none =>
      rw [found] at last
      rw [Option.map_eq_none_iff.1 last.symm]
  | some value =>
      rw [found] at last
      obtain ⟨other, foundToo, eq⟩ := Option.map_eq_some_iff.1 last.symm
      rw [foundToo, Option.map_some, Option.map_some,
        each _ (Entries.mem_of_last? found) other eq.symm]

mutual

/-- Documents with the same tree say the same. -/
theorem canonical_eq_of_ofJson : (document other : Json) → ofJson document = ofJson other →
    document.canonical = other.canonical
  | .null, other, same => by cases other <;> simp_all [ofJson]
  | .bool _, other, same => by cases other <;> simp_all [ofJson]
  | .number _, other, same => by
      cases other <;> simp_all [ofJson, Json.Number.text_injective.eq_iff]
  | .text _, other, same => by cases other <;> simp_all [ofJson]
  | .array items, other, same => by
      cases other with
      | array others =>
          rw [Json.canonical_array, Json.canonical_array,
            canonicalItems_eq items others (Tree.list.inj same)]
      | _ => simp [ofJson] at same
  | .object members, other, same => by
      cases other with
      | object others => exact canonical_object_eq (canonicalMembers_eq members) same
      | _ => simp [ofJson] at same

theorem canonicalItems_eq : (items others : List Json) → ofItems items = ofItems others →
    items.map Json.canonical = others.map Json.canonical
  | [], others, same => by cases others <;> simp_all [ofItems]
  | item :: rest, others, same => by
      cases others with
      | nil => simp [ofItems] at same
      | cons other more =>
          simp only [ofItems, List.cons.injEq] at same
          rw [List.map_cons, List.map_cons, canonical_eq_of_ofJson item other same.1,
            canonicalItems_eq rest more same.2]

theorem canonicalMembers_eq : (members : List (String × Json)) → ∀ member ∈ members,
    ∀ other, ofJson member.2 = ofJson other → member.2.canonical = other.canonical
  | [], _, mem => absurd mem List.not_mem_nil
  | (_, value) :: rest, member, mem => fun other same => by
      rcases List.mem_cons.1 mem with rfl | mem
      · exact canonical_eq_of_ofJson value other same
      · exact canonicalMembers_eq rest member mem other same

end

/-! ### Trees of documents -/

/-- Whether a tree is made of null, truth values, texts, numbers of a kind, lists and maps only. -/
inductive IsPlain (kind : Json.Number → Prop) : Tree → Prop
  | null : IsPlain kind (.null true)
  | bool (b : Bool) : IsPlain kind (.bool b)
  | number {n : Json.Number} (is : kind n) : IsPlain kind (.number n.text)
  | text (s : String) : IsPlain kind (.text s)
  | list {items : List Tree} (each : ∀ item ∈ items, IsPlain kind item) : IsPlain kind (.list items)
  | map {entries : List (String × Tree)} (each : ∀ entry ∈ entries, IsPlain kind entry.2) :
      IsPlain kind (.map entries)

end Tree

/-- Whether all numbers in a document are of a kind. -/
inductive Json.HasNumbers (kind : Json.Number → Prop) : Json → Prop
  | null : HasNumbers kind .null
  | bool (b : Bool) : HasNumbers kind (.bool b)
  | number {n : Json.Number} (is : kind n) : HasNumbers kind (.number n)
  | text (s : String) : HasNumbers kind (.text s)
  | array {items : List Json} (each : ∀ item ∈ items, HasNumbers kind item) :
      HasNumbers kind (.array items)
  | object {members : List (String × Json)} (each : ∀ member ∈ members, HasNumbers kind member.2) :
      HasNumbers kind (.object members)

namespace Tree

variable {kind : Json.Number → Prop}

theorem isPlain_ofJson {document : Json} (h : document.HasNumbers kind) :
    (ofJson document).IsPlain kind := by
  induction h with
  | null => exact .null
  | bool b => exact .bool b
  | number is => exact .number is
  | text s => exact .text s
  | array each ih =>
      rw [ofJson, ofItems_eq_map]
      exact .list (List.forall_mem_map.2 ih)
  | @object members each ih =>
      rw [ofJson_object]
      exact .map (List.forall_mem_map.2 fun member mem => ih member (Entries.mem_of_mem_ofList mem))

/-- A tree that is plain and in order is that of a document. -/
theorem exists_ofJson {tree : Tree} (h : tree.IsPlain kind) (canonical : tree.Canonical) :
    ∃ document : Json, document.HasNumbers kind ∧ ofJson document = tree := by
  induction h with
  | null => exact ⟨.null, .null, rfl⟩
  | bool b => exact ⟨.bool b, .bool b, rfl⟩
  | number is => exact ⟨.number _, .number is, rfl⟩
  | text s => exact ⟨.text s, .text s, rfl⟩
  | @list items each ih =>
      obtain ⟨documents, are, made⟩ := exists_map_eq fun item mem =>
        ih item mem (allCanonical_iff.1 canonical item mem)
      exact ⟨.array documents, .array are, by rw [ofJson, ofItems_eq_map, made]⟩
  | @map entries each ih =>
      have found : ∀ entry ∈ entries, ∃ member : String × Json,
          member.2.HasNumbers kind ∧ (member.1, ofJson member.2) = entry := by
        intro entry mem
        obtain ⟨document, has, made⟩ := ih entry mem (entriesCanonical_iff.1 canonical.2 entry mem)
        exact ⟨(entry.1, document), has, by rw [made]⟩
      obtain ⟨members, are, made⟩ := exists_map_eq found
      refine ⟨.object members, .object are, ?_⟩
      rw [ofJson, ofMembers_eq_map, made, Entries.ofList_of_ordered canonical.1]

end Tree

namespace Value

/--
Marshalling loses nothing: documents become the same attribute value only if they say the same. The
attribute values that documents become are those made of null, truth values, texts, numbers as
documents have them, lists and maps, whatever numbers are allowed in documents.
-/
theorem ofJson_faithful :
    (∀ document other, ofJson document = ofJson other ↔ document.canonical = other.canonical) ∧
      ∀ (kind : Json.Number → Prop) value,
        (∃ document : Json, document.HasNumbers kind ∧ ofJson document = value) ↔
          value.tree.IsPlain kind := by
  refine ⟨fun document other => ⟨fun same => ?_, fun same => ?_⟩, fun kind value => ⟨?_, ?_⟩⟩
  · exact Tree.canonical_eq_of_ofJson document other (congrArg tree same)
  · rw [← ofJson_canonical document, same, ofJson_canonical]
  · rintro ⟨document, has, rfl⟩
    exact Tree.isPlain_ofJson has
  · intro plain
    obtain ⟨document, has, made⟩ := Tree.exists_ofJson plain value.canonical
    exact ⟨document, has, eq_of_tree made⟩

end Value

end ItemStore
