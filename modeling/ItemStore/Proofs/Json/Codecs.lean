import Mathlib
import ItemStore.Json.Codec
import ItemStore.Proofs.Json.RoundTrip

/-!
# ItemStore.Proofs.Json.Codecs

What decoders succeed on, and values that are read as they are written.

A list is decoded exactly from a complete array, item by item, and a map from a complete object, if
there is room for one more level (`Decoder.list_eq_ok_iff`, `Decoder.map_eq_ok_iff`). A text is read
as far as its nesting allows, so a decoder is asked for a value only where it has room for it.
-/

namespace ItemStore.Json

/-! ### Nesting -/

mutual

/-- How deep arrays and objects are nested in a document. -/
def depth : Json → Nat
  | .array items => depthItems items + 1
  | .object members => depthMembers members + 1
  | _ => 0

/-- How deep arrays and objects are nested in the items of an array. -/
def depthItems : List Json → Nat
  | [] => 0
  | item :: rest => max (depth item) (depthItems rest)

/-- How deep arrays and objects are nested in the members of an object. -/
def depthMembers : List (String × Json) → Nat
  | [] => 0
  | (_, value) :: rest => max (depth value) (depthMembers rest)

end

theorem depthItems_le_iff {items : List Json} {bound : Nat} :
    depthItems items ≤ bound ↔ ∀ item ∈ items, item.depth ≤ bound := by
  induction items with
  | nil => simp [depthItems]
  | cons item rest ih => simp [depthItems, ih]

theorem depthMembers_le_iff {members : List (String × Json)} {bound : Nat} :
    depthMembers members ≤ bound ↔ ∀ member ∈ members, member.2.depth ≤ bound := by
  induction members with
  | nil => simp [depthMembers]
  | cons member rest ih => obtain ⟨name, value⟩ := member; simp [depthMembers, ih]

/-- There is room for an array where there is room for its items one level below. -/
theorem depth_array_le_iff {items : List Json} {room : Nat} :
    (Json.array items).depth ≤ room ↔
      ∃ less, room = less + 1 ∧ ∀ item ∈ items, item.depth ≤ less := by
  rw [depth, ← Nat.lt_iff_add_one_le]
  constructor
  · intro lt
    exact ⟨room - 1, by omega, depthItems_le_iff.1 (by omega)⟩
  · rintro ⟨less, rfl, each⟩
    exact Nat.lt_succ_of_le (depthItems_le_iff.2 each)

/-- There is room for an object where there is room for its members one level below. -/
theorem depth_object_le_iff {members : List (String × Json)} {room : Nat} :
    (Json.object members).depth ≤ room ↔
      ∃ less, room = less + 1 ∧ ∀ member ∈ members, member.2.depth ≤ less := by
  rw [depth, ← Nat.lt_iff_add_one_le]
  constructor
  · intro lt
    exact ⟨room - 1, by omega, depthMembers_le_iff.1 (by omega)⟩
  · rintro ⟨less, rfl, each⟩
    exact Nat.lt_succ_of_le (depthMembers_le_iff.2 each)

theorem allNumberFree_iff {items : List Json} :
    allNumberFree items = true ↔ ∀ item ∈ items, item.isNumberFree = true := by
  induction items with
  | nil => simp [allNumberFree]
  | cons item rest ih => simp [allNumberFree, ih]

theorem allMembersNumberFree_iff {members : List (String × Json)} :
    allMembersNumberFree members = true ↔ ∀ member ∈ members, member.2.isNumberFree = true := by
  induction members with
  | nil => simp [allMembersNumberFree]
  | cons member rest ih => obtain ⟨name, value⟩ := member; simp [allMembersNumberFree, ih]

/-! ### Related lists -/

theorem exists_forall₂ {α β : Type} {R : α → β → Prop} {as : List α}
    (h : ∀ a ∈ as, ∃ b, R a b) : ∃ bs, List.Forall₂ R as bs := by
  induction as with
  | nil => exact ⟨[], .nil⟩
  | cons a rest ih =>
      obtain ⟨⟨b, first⟩, others⟩ := List.forall_mem_cons.1 h
      obtain ⟨bs, all⟩ := ih others
      exact ⟨b :: bs, .cons first all⟩

/-- Items that are images, each of something related, are the image of a related list. -/
theorem exists_map_of_forall₂ {α β γ : Type} {f : γ → α} {R : β → γ → Prop} {as : List α}
    {bs : List β} (h : List.Forall₂ (fun a b => ∃ c, a = f c ∧ R b c) as bs) :
    ∃ cs, as = cs.map f ∧ List.Forall₂ R bs cs := by
  induction h with
  | nil => exact ⟨[], rfl, .nil⟩
  | cons first _ ih =>
      obtain ⟨c, rfl, first⟩ := first
      obtain ⟨cs, rfl, others⟩ := ih
      exact ⟨c :: cs, rfl, .cons first others⟩

/-- A list in the order of another is the image of a list in the order of the other's source. -/
theorem exists_eq_map_of_perm {α β : Type} {f : α → β} {images : List β} {source : List α}
    (h : images.Perm (source.map f)) :
    ∃ ordered : List α, ordered.Perm source ∧ images = ordered.map f := by
  have pointwise : List.Forall₂ (fun image a => image = f a) (source.map f) source :=
    List.forall₂_map_left_iff.2 (List.forall₂_same.2 fun _ _ => rfl)
  obtain ⟨ordered, all, perm⟩ := List.perm_comp_forall₂ h pointwise
  refine ⟨ordered, perm, ?_⟩
  rw [← List.forall₂_eq_eq_eq]
  exact List.forall₂_map_right_iff.2 all

/-- A relation between lists, with what holds of all that stands on its right side. -/
theorem forall₂_and_right {α β : Type} {R : α → β → Prop} {p : β → Prop} {as : List α}
    {bs : List β} (h : List.Forall₂ R as bs) (each : ∀ b ∈ bs, p b) :
    List.Forall₂ (fun a b => p b ∧ R a b) as bs :=
  ((List.forall₂_and_left _ _).2 ⟨each, h.flip⟩ :
    List.Forall₂ (fun b a => p b ∧ R a b) bs as).flip

theorem forall_mem_of_forall₂ {α β : Type} {R : α → β → Prop} {p : α → Prop} {as : List α}
    {bs : List β} (h : List.Forall₂ R as bs) (imp : ∀ a b, R a b → p a) : ∀ a ∈ as, p a :=
  ((List.forall₂_and_left _ _).1 (h.imp fun a b r => ⟨imp a b r, r⟩)).1

/-! ### Lists and maps -/

namespace Outline

theorem ofItems_eq_map (items : List Json) : ofItems items = items.map ofJson := by
  induction items with
  | nil => rfl
  | cons item rest ih => rw [ofItems, ih, List.map_cons]

theorem ofMembers_eq_map (members : List (String × Json)) :
    ofMembers members = members.map fun member => (some member.1, ofJson member.2) := by
  induction members with
  | nil => rfl
  | cons member rest ih => obtain ⟨name, value⟩ := member; rw [ofMembers, ih, List.map_cons]

end Outline

namespace Decoder

variable {α : Type} {decode : Decoder α} {room : Nat}

theorem itemsOf_eq_ok_iff {closed : Bool} {outlines : List Outline} {items : List α} :
    itemsOf decode room closed outlines = .ok items ↔
      closed = true ∧
        List.Forall₂ (fun outline a => decode room outline = .ok a) outlines items := by
  induction outlines generalizing items with
  | nil => cases closed <;> cases items <;> simp [itemsOf]
  | cons outline rest ih =>
      rw [itemsOf]
      constructor
      · intro h
        obtain ⟨a, first, h⟩ := bind_eq_ok h
        obtain ⟨more, others, h⟩ := bind_eq_ok h
        cases h
        exact ⟨(ih.1 others).1, .cons first (ih.1 others).2⟩
      · rintro ⟨ends, first | ⟨first, others⟩⟩
        rw [first, ih.2 ⟨ends, others⟩]
        rfl

theorem membersOf_eq_ok_iff {closed : Bool} {members : List (Option String × Outline)}
    {pairs : List (String × α)} :
    membersOf decode room closed members = .ok pairs ↔
      closed = true ∧ List.Forall₂
        (fun member pair => member.1 = some pair.1 ∧ decode room member.2 = .ok pair.2)
        members pairs := by
  induction members generalizing pairs with
  | nil => cases closed <;> cases pairs <;> simp [membersOf]
  | cons member rest ih =>
      obtain ⟨name, outline⟩ := member
      cases name with
      | none => cases pairs <;> simp [membersOf]
      | some name =>
          rw [membersOf]
          constructor
          · intro h
            obtain ⟨a, first, h⟩ := bind_eq_ok h
            obtain ⟨more, others, h⟩ := bind_eq_ok h
            cases h
            exact ⟨(ih.1 others).1, .cons ⟨rfl, first⟩ (ih.1 others).2⟩
          · rintro ⟨ends, first | ⟨⟨named, first⟩, others⟩⟩
            cases named
            rw [first, ih.2 ⟨ends, others⟩]
            rfl

theorem mapM_eq_ok_iff {β : Type} {f : β → Except DecodeError α} {inputs : List β}
    {results : List α} :
    inputs.mapM f = .ok results ↔ List.Forall₂ (fun input a => f input = .ok a) inputs results := by
  induction inputs generalizing results with
  | nil => cases results <;> simp [pure, Except.pure]
  | cons input rest ih =>
      rw [List.mapM_cons]
      constructor
      · intro h
        obtain ⟨a, first, h⟩ := bind_eq_ok h
        obtain ⟨more, others, h⟩ := bind_eq_ok h
        cases h
        exact .cons first (ih.1 others)
      · rintro (_ | ⟨first, others⟩)
        rw [first, ih.2 others]
        rfl

/-- A list is decoded from a complete array, item by item. -/
theorem list_eq_ok_iff {outline : Outline} {items : List α} :
    list decode room outline = .ok items ↔
      ∃ less outlines, room = less + 1 ∧ outline = .array outlines true ∧
        List.Forall₂ (fun outline a => decode less outline = .ok a) outlines items := by
  constructor
  · intro h
    unfold list at h
    split at h
    · rename_i less outlines closed
      obtain ⟨rfl, all⟩ := itemsOf_eq_ok_iff.1 h
      exact ⟨less, outlines, rfl, rfl, all⟩
    · cases h
    · cases h
  · rintro ⟨less, outlines, rfl, rfl, all⟩
    exact itemsOf_eq_ok_iff.2 ⟨rfl, all⟩

/-- A map is decoded from a complete object, member by member. -/
theorem map_eq_ok_iff {outline : Outline} {entries : NameMap α} :
    map decode room outline = .ok entries ↔
      ∃ less members pairs, room = less + 1 ∧ outline = .object members true ∧
        List.Forall₂ (fun member pair => member.1 = some pair.1 ∧ decode less member.2 = .ok pair.2)
          members pairs ∧ entries = NameMap.ofList pairs := by
  constructor
  · intro h
    unfold map at h
    split at h
    · rename_i less members closed
      obtain ⟨pairs, decoded, rfl⟩ := map_eq_ok h
      obtain ⟨rfl, all⟩ := membersOf_eq_ok_iff.1 decoded
      exact ⟨less, members, pairs, rfl, rfl, all, rfl⟩
    · cases h
    · cases h
  · rintro ⟨less, members, pairs, rfl, rfl, all, rfl⟩
    rw [map, membersOf_eq_ok_iff.2 ⟨rfl, all⟩]
    rfl

end Decoder

/-! ### Texts that are read -/

/-- What a decoder makes of a document is what it reads from the bytes of the document's text. -/
theorem Decoder.read_print {α : Type} {decode : Decoder α} {document : Json} {a : α}
    (free : document.isNumberFree = true)
    (decodes : decode maxDepth (Outline.ofJson document) = .ok a) :
    decode.read (.ofBytes (ItemStore.Text.utf8 document.print)) = .ok a := by
  rw [Decoder.read]
  simp only [Json.read_print free, decodes]
  rfl

namespace Codec

variable {α : Type}

/-- Whether values are written without numbers, and what is written is decoded as the value. -/
structure RoundTrips (codec : Codec α) : Prop where
  numberFree : ∀ a, (codec.encode a).isNumberFree = true
  decode : ∀ a room, (codec.encode a).depth ≤ room →
    codec.decode room (Outline.ofJson (codec.encode a)) = .ok a

theorem RoundTrips.read {codec : Codec α} (h : codec.RoundTrips) {a : α}
    (nested : (codec.encode a).depth ≤ maxDepth) :
    codec.read (.ofBytes (ItemStore.Text.utf8 (codec.encode a).print)) = .ok a :=
  Decoder.read_print (h.numberFree a) (h.decode a maxDepth nested)

end Codec

end ItemStore.Json
