import ItemStore.Value.Wire

/-!
# ItemStore.Value.Document

Documents as attribute values and as items, for payloads that come as plain JSON.

Design points:

* Each kind of document becomes the attribute type of its name; there are no sets and no binary data
  among the results. Numbers keep the text in which they are written.
* An item is an object. Its members with null are left out: they say nothing about the attribute.
  Null further inside is a value like any other.
-/

namespace ItemStore

namespace Tree

mutual

/-- The tree of a document. Of members with one name the last counts. -/
def ofJson : Json → Tree
  | .null => .null true
  | .bool b => .bool b
  | .number n => .number n.text
  | .text s => .text s
  | .array items => .list (ofItems items)
  | .object members => .map (Entries.ofList (ofMembers members))

/-- The trees of the items of an array. -/
def ofItems : List Json → List Tree
  | [] => []
  | item :: rest => ofJson item :: ofItems rest

/-- The trees of the members of an object, in order. -/
def ofMembers : List (String × Json) → List (String × Tree)
  | [] => []
  | (name, value) :: rest => (name, ofJson value) :: ofMembers rest

end

mutual

theorem canonical_ofJson : (document : Json) → (ofJson document).Canonical
  | .null | .bool _ | .number _ | .text _ => trivial
  | .array items => allCanonical_ofItems items
  | .object members => canonical_map_ofList (entriesCanonical_ofMembers members)

theorem allCanonical_ofItems : (items : List Json) → AllCanonical (ofItems items)
  | [] => trivial
  | item :: rest => ⟨canonical_ofJson item, allCanonical_ofItems rest⟩

theorem entriesCanonical_ofMembers : (members : List (String × Json)) →
    EntriesCanonical (ofMembers members)
  | [] => trivial
  | (_, value) :: rest => ⟨canonical_ofJson value, entriesCanonical_ofMembers rest⟩

end

end Tree

/-- The attribute value of a document. -/
def Value.ofJson (document : Json) : Value := ⟨.ofJson document, Tree.canonical_ofJson document⟩

/--
The item of an object; other documents are no items. Of members with one name the last counts, and a
name whose last value is null is left out.
-/
def Item.ofJson? : Json → Option Item
  | .object members =>
      some ((NameMap.ofList members).filterMap fun value =>
        if value.isNull then none else some (Value.ofJson value))
  | _ => none

end ItemStore
