import Mathlib
import ItemStore.Proofs.Json.Codecs

/-!
# ItemStore.Proofs.Json.Canonical

Documents as what they say: documents are equal once the last member of each name counts and order
means nothing.
-/

namespace ItemStore

namespace Entries

variable {α β : Type}

/-- Entries whose values are replaced are inserted as they would be before. -/
theorem insert_map (f : α → β) (name : String) (value : α) (entries : List (String × α)) :
    insert name (f value) (entries.map fun entry => (entry.1, f entry.2)) =
      (insert name value entries).map fun entry => (entry.1, f entry.2) := by
  induction entries with
  | nil => rfl
  | cons entry rest ih =>
      obtain ⟨n, v⟩ := entry
      simp only [List.map_cons, insert]
      split
      · rfl
      · split
        · rfl
        · rw [ih, List.map_cons]

/-- Collecting pairs and replacing values may be done in either order. -/
theorem ofList_map (f : α → β) (pairs : List (String × α)) :
    ofList (pairs.map fun pair => (pair.1, f pair.2)) =
      (ofList pairs).map fun entry => (entry.1, f entry.2) := by
  have collect : ∀ (more : List (String × α)) (entries : List (String × α)),
      (more.map fun pair => (pair.1, f pair.2)).foldl
          (fun entries pair => insert pair.1 pair.2 entries)
          (entries.map fun entry => (entry.1, f entry.2)) =
        (more.foldl (fun entries pair => insert pair.1 pair.2 entries) entries).map
          fun entry => (entry.1, f entry.2) := by
    intro more
    induction more with
    | nil => exact fun _ => rfl
    | cons pair rest ih =>
        intro entries
        simp only [List.map_cons, List.foldl_cons, insert_map, ih]
  exact collect pairs []

end Entries

namespace Json

/-! ### Canonical documents -/

theorem canonicalItems_eq_map (items : List Json) : canonicalItems items = items.map canonical := by
  induction items with
  | nil => rfl
  | cons item rest ih => rw [canonicalItems, ih, List.map_cons]

theorem canonicalMembers_eq_foldl (members entries : List (String × Json)) :
    canonicalMembers members entries =
      (members.map fun member => (member.1, member.2.canonical)).foldl
        (fun entries pair => Entries.insert pair.1 pair.2 entries) entries := by
  induction members generalizing entries with
  | nil => rfl
  | cons member rest ih =>
      obtain ⟨name, value⟩ := member
      rw [canonicalMembers, ih]
      rfl

theorem canonical_array (items : List Json) :
    (Json.array items).canonical = .array (items.map canonical) := by
  rw [canonical, canonicalItems_eq_map]

theorem canonical_object (members : List (String × Json)) :
    (Json.object members).canonical =
      .object (Entries.ofList (members.map fun member => (member.1, member.2.canonical))) := by
  rw [canonical, canonicalMembers_eq_foldl]
  rfl

/-! ### Decoding texts -/

/-- A text is decoded into a value exactly when its outline is, and nothing follows it. -/
theorem Decoder.read_eq_ok_iff {α : Type} {decode : Decoder α} {source : ItemStore.Text.Source}
    {a : α} : decode.read source = .ok a ↔
      decode maxDepth (Outline.read source).outline = .ok a ∧
        (Outline.read source).ended = true := by
  rw [Decoder.read]
  cases found : decode maxDepth (Outline.read source).outline with
  | error e => simp
  | ok b => cases ended : (Outline.read source).ended <;> simp

end Json

end ItemStore
