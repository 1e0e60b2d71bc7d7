import Mathlib
import ItemStore.Proofs.Json.Canonical
import ItemStore.Proofs.NameMap
import ItemStore.Value.Document

/-!
# ItemStore.Proofs.Value.Documents

Documents as attribute values: what becomes of arrays and objects, and that the order of members and
members that do not count have no influence.
-/

namespace ItemStore

namespace Tree

theorem ofItems_eq_map (items : List Json) : ofItems items = items.map ofJson := by
  induction items with
  | nil => rfl
  | cons item rest ih => rw [ofItems, ih, List.map_cons]

theorem ofMembers_eq_map (members : List (String × Json)) :
    ofMembers members = members.map fun member => (member.1, ofJson member.2) := by
  induction members with
  | nil => rfl
  | cons member rest ih =>
      obtain ⟨name, value⟩ := member
      rw [ofMembers, ih, List.map_cons]

/-- The entries of an object are those of its members, made ordered. -/
theorem ofJson_object (members : List (String × Json)) :
    ofJson (.object members) =
      .map ((Entries.ofList members).map fun member => (member.1, ofJson member.2)) := by
  rw [ofJson, ofMembers_eq_map, Entries.ofList_map]

mutual

/-- Documents that say the same have the same tree. -/
theorem ofJson_canonical : (document : Json) → ofJson document.canonical = ofJson document
  | .null | .bool _ | .number _ | .text _ => rfl
  | .array items => by
      rw [Json.canonical_array, ofJson, ofJson, ofItems_canonical items]
  | .object members => by
      rw [Json.canonical_object, ofJson_object,
        Entries.ofList_of_ordered (Entries.ordered_ofList _), ← Entries.ofList_map,
        ← ofMembers_eq_map, ofMembers_canonical members, ofJson]

theorem ofItems_canonical : (items : List Json) →
    ofItems (items.map Json.canonical) = ofItems items
  | [] => rfl
  | item :: rest => by
      rw [List.map_cons, ofItems, ofItems, ofJson_canonical item, ofItems_canonical rest]

theorem ofMembers_canonical : (members : List (String × Json)) →
    ofMembers (members.map fun member => (member.1, member.2.canonical)) = ofMembers members
  | [] => rfl
  | (name, value) :: rest => by
      rw [List.map_cons, ofMembers, ofMembers, ofJson_canonical value, ofMembers_canonical rest]

end

end Tree

namespace Value

theorem eq_of_tree {value other : Value} (h : value.tree = other.tree) : value = other := by
  obtain ⟨tree, canonical⟩ := value
  obtain ⟨otherTree, otherCanonical⟩ := other
  subst h
  rfl

theorem ofJson_canonical (document : Json) : ofJson document.canonical = ofJson document :=
  eq_of_tree (Tree.ofJson_canonical document)

theorem ofJson_array (items : List Json) : ofJson (.array items) = list (items.map ofJson) := by
  refine eq_of_tree ?_
  show Tree.list (Tree.ofItems items) = .list ((items.map ofJson).map tree)
  rw [Tree.ofItems_eq_map, List.map_map]
  rfl

/-- An object is a map in which each name has the value of its last member. -/
theorem ofJson_object (members : List (String × Json)) :
    ∃ item, ofJson (.object members) = map item ∧
      ∀ name, item.find? name = (Entries.last? members name).map ofJson := by
  refine ⟨⟨_, Entries.ordered_map (f := ofJson) (Entries.ordered_ofList members)⟩,
    eq_of_tree ?_, fun name => ?_⟩
  · show Tree.ofJson (.object members) = .map (((Entries.ofList members).map _).map _)
    rw [Tree.ofJson_object, List.map_map]
    rfl
  · show Entries.find? name ((Entries.ofList members).map _) = _
    rw [← Entries.ofList_map, Entries.find?_ofList, Entries.last?_map]

/-- What each kind of document becomes; null is null wherever it stands. -/
structure IsConversion (convert : Json → Value) : Prop where
  null : convert .null = .null
  bool : ∀ b, convert (.bool b) = .bool b
  number : ∀ n, convert (.number n) = .number n.text
  text : ∀ s, convert (.text s) = .text s
  array : ∀ items, convert (.array items) = .list (items.map convert)
  object : ∀ members, ∃ item, convert (.object members) = .map item ∧
    ∀ name, item.find? name = (Entries.last? members name).map convert

theorem isConversion_ofJson : IsConversion ofJson where
  null := rfl
  bool _ := rfl
  number _ := rfl
  text _ := rfl
  array := ofJson_array
  object := ofJson_object

end Value

/-! ### Objects as items -/

theorem Json.isNull_canonical (document : Json) : document.canonical.isNull = document.isNull := by
  cases document <;> rfl

namespace Item

/-- What a member makes of its attribute: nothing if it is null. -/
theorem ofJson?_object (members : List (String × Json)) :
    ∃ item, ofJson? (.object members) = some item ∧
      ∀ name, item.find? name = (Entries.last? members name).bind fun value =>
        if value.isNull then none else some (Value.ofJson value) := by
  refine ⟨_, rfl, fun name => ?_⟩
  rw [NameMap.find?_filterMap, NameMap.find?_ofList]

/-- Documents that say the same are the same item. -/
theorem ofJson?_canonical (document : Json) : ofJson? document.canonical = ofJson? document := by
  cases document with
  | object members =>
      rw [Json.canonical_object]
      obtain ⟨item, is, has⟩ := ofJson?_object members
      obtain ⟨other, isToo, hasToo⟩ := ofJson?_object
        (Entries.ofList (members.map fun member => (member.1, member.2.canonical)))
      rw [is, isToo]
      refine congrArg some (NameMap.ext_find? fun name => ?_)
      rw [has, hasToo, ← Entries.find?_ofList,
        Entries.ofList_of_ordered (Entries.ordered_ofList _), Entries.find?_ofList,
        Entries.last?_map, Option.bind_map]
      refine Option.bind_congr fun value _ => ?_
      simp only [Function.comp_apply, Json.isNull_canonical, Value.ofJson_canonical]
  | _ => rfl

end Item

end ItemStore
