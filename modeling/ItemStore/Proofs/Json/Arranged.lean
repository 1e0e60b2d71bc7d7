import Mathlib
import ItemStore.Proofs.Json.Canonical

/-!
# ItemStore.Proofs.Json.Arranged

Documents whose members stand in another order.

A map has no order of its own, so whoever writes one may write its entries in any. What is read back
does not depend on that: `Codec.ReadsBack` says that a value is decoded from each arrangement of
what is written for it. Each kind of codec has a lemma here that reduces it to the parts of a value.
-/

namespace ItemStore

namespace Entries

variable {α : Type}

theorem insert_perm {name : String} {entries : List (String × α)}
    (fresh : name ∉ entries.map Prod.fst) (value : α) :
    (insert name value entries).Perm ((name, value) :: entries) := by
  induction entries with
  | nil => exact .refl _
  | cons entry rest ih =>
      obtain ⟨n, v⟩ := entry
      obtain ⟨ne, freshRest⟩ := not_or.1 (mt List.mem_cons.2 fresh)
      by_cases lt : name < n
      · rw [insert, if_pos lt]
      · rw [insert, if_neg lt, if_neg ne]
        exact ((ih freshRest).cons _).trans (.swap _ _ _)

/-- Pairs with different names are all collected. -/
theorem ofList_perm {pairs : List (String × α)} (names : (pairs.map Prod.fst).Nodup) :
    (ofList pairs).Perm pairs := by
  have collect : ∀ more before : List (String × α), ((before ++ more).map Prod.fst).Nodup →
      (more.foldl (fun entries pair => insert pair.1 pair.2 entries) before).Perm
        (before ++ more) := by
    intro more
    induction more with
    | nil => simp
    | cons pair rest ih =>
        intro before names
        have moved : (pair :: before ++ rest).Perm (before ++ pair :: rest) :=
          List.perm_middle.symm
        have distinct : ((pair :: before ++ rest).map Prod.fst).Nodup :=
          (moved.map Prod.fst).nodup_iff.2 names
        have fresh : pair.1 ∉ before.map Prod.fst := by
          rw [List.cons_append, List.map_cons, List.map_append] at distinct
          exact fun mem => (List.nodup_cons.1 distinct).1 (List.mem_append_left _ mem)
        have inserted := insert_perm fresh pair.2
        have all := ih (insert pair.1 pair.2 before)
          (((inserted.append_right rest).map Prod.fst).nodup_iff.2 distinct)
        exact all.trans ((inserted.append_right rest).trans moved)
  exact collect pairs [] names

/-- Pairs with different names make up the same entries, in whatever order they are. -/
theorem ofList_eq_of_perm {pairs others : List (String × α)} (perm : pairs.Perm others)
    (names : (others.map Prod.fst).Nodup) : ofList pairs = ofList others := by
  have namesToo : (pairs.map Prod.fst).Nodup := (perm.map Prod.fst).nodup_iff.2 names
  have same : (ofList pairs).Perm (ofList others) :=
    (ofList_perm namesToo).trans (perm.trans (ofList_perm names).symm)
  exact List.Perm.eq_of_pairwise (fun _ _ _ _ lt gt => absurd gt (String.lt_asymm lt))
    (ordered_ofList pairs) (ordered_ofList others) same

theorem names_nodup {entries : List (String × α)} (ordered : Ordered entries) :
    (entries.map Prod.fst).Nodup :=
  (ordered_iff_names.1 ordered).nodup

end Entries

/-- The entries of a map make up the map, in whatever order they are. -/
theorem NameMap.ofList_of_perm {α : Type} {pairs : List (String × α)} {map : NameMap α}
    (h : pairs.Perm map.entries) : NameMap.ofList pairs = map := by
  have same : Entries.ofList pairs = map.entries :=
    (Entries.ofList_eq_of_perm h (Entries.names_nodup map.ordered)).trans
      (Entries.ofList_of_ordered map.ordered)
  obtain ⟨entries, ordered⟩ := map
  subst same
  rfl

namespace Json

/-! ### Arrangements -/

/-- No object in the document has a name twice. -/
inductive HasDistinctNames : Json → Prop
  | null : HasDistinctNames .null
  | bool (b : Bool) : HasDistinctNames (.bool b)
  | number (n : Number) : HasDistinctNames (.number n)
  | text (s : String) : HasDistinctNames (.text s)
  | array {items : List Json} (each : ∀ item ∈ items, HasDistinctNames item) :
      HasDistinctNames (.array items)
  | object {members : List (String × Json)} (names : (members.map Prod.fst).Nodup)
      (each : ∀ member ∈ members, HasDistinctNames member.2) : HasDistinctNames (.object members)

/--
A document is an arrangement of another: it says the same, and has no name twice. So its objects
have the members of the other's, in some order.
-/
structure Arranges (document other : Json) : Prop where
  same : document.canonical = other.canonical
  distinct : document.HasDistinctNames

theorem HasDistinctNames.arranges {document : Json} (h : document.HasDistinctNames) :
    document.Arranges document :=
  ⟨rfl, h⟩

/-- A member of an object, and an arrangement of it. -/
structure ArrangesMember (member other : String × Json) : Prop where
  name : member.1 = other.1
  value : Arranges member.2 other.2

theorem Arranges.eq_text {document : Json} {s : String} (h : document.Arranges (.text s)) :
    document = .text s := by
  have same := h.same
  cases document <;> simp_all [canonical]

theorem Arranges.eq_bool {document : Json} {b : Bool} (h : document.Arranges (.bool b)) :
    document = .bool b := by
  have same := h.same
  cases document <;> simp_all [canonical]

theorem Arranges.array {document : Json} {items : List Json}
    (h : document.Arranges (.array items)) :
    ∃ arranged, document = .array arranged ∧ List.Forall₂ Arranges arranged items := by
  obtain ⟨same, distinct⟩ := h
  cases document with
  | array arranged =>
      cases distinct with
      | array each =>
        have both : List.Forall₂
            (fun document item => document.HasDistinctNames ∧ document.canonical = item.canonical)
            arranged items := by
          refine (List.forall₂_and_left _ _).2 ⟨each, ?_⟩
          rw [canonical_array, canonical_array, Json.array.injEq, ← List.forall₂_eq_eq_eq,
            List.forall₂_map_left_iff, List.forall₂_map_right_iff] at same
          exact same
        exact ⟨arranged, rfl, both.imp fun _ _ h => ⟨h.2, h.1⟩⟩
  | _ => simp [canonical] at same

/-- The members of an arrangement are arrangements of the members, in another order. -/
theorem Arranges.object {document : Json} {members : List (String × Json)}
    (h : document.Arranges (.object members)) (names : (members.map Prod.fst).Nodup) :
    ∃ arranged ordered, document = .object arranged ∧ ordered.Perm members ∧
      List.Forall₂ ArrangesMember arranged ordered := by
  obtain ⟨same, distinct⟩ := h
  cases document with
  | object arranged =>
      cases distinct with
      | object namesArranged each =>
        let said (member : String × Json) : String × Json := (member.1, member.2.canonical)
        have collected {some : List (String × Json)} (names : (some.map Prod.fst).Nodup) :
            (Entries.ofList (some.map said)).Perm (some.map said) := by
          refine Entries.ofList_perm ?_
          rw [List.map_map]
          exact names
        have perm : (arranged.map said).Perm (members.map said) := by
          rw [canonical_object, canonical_object, Json.object.injEq] at same
          exact (collected namesArranged).symm.trans (same ▸ collected names)
        obtain ⟨ordered, permOrdered, all⟩ := exists_eq_map_of_perm perm
        rw [← List.forall₂_eq_eq_eq, List.forall₂_map_left_iff, List.forall₂_map_right_iff] at all
        refine ⟨arranged, ordered, rfl, permOrdered, ?_⟩
        exact ((List.forall₂_and_left _ _).2 ⟨each, all⟩).imp fun member other h =>
          ⟨(Prod.mk.inj h.2).1, (Prod.mk.inj h.2).2, h.1⟩
  | _ => simp [canonical] at same

/-! ### Values that are read back -/

/--
A decoder reads what is written for a value as the value, however it is arranged. There are no
numbers in it, and it is not null.
-/
structure Decoder.Reads {α : Type} (decode : Decoder α) (written : Json) (a : α) : Prop where
  distinct : written.HasDistinctNames
  notNull : written ≠ .null
  numberFree : ∀ {document : Json}, document.Arranges written → document.isNumberFree = true
  decoded : ∀ {document : Json} {room : Nat}, document.Arranges written → document.depth ≤ room →
    decode room (Outline.ofJson document) = .ok a

theorem Decoder.reads_text (s : String) : Decoder.text.Reads (.text s) s where
  distinct := .text s
  notNull := nofun
  numberFree h := by rw [h.eq_text]; rfl
  decoded h _ := by rw [h.eq_text]; rfl

theorem Decoder.reads_bool (b : Bool) : Decoder.bool.Reads (.bool b) b where
  distinct := .bool b
  notNull := nofun
  numberFree h := by rw [h.eq_bool]; rfl
  decoded h _ := by rw [h.eq_bool]; rfl

theorem Decoder.Reads.imp {α β : Type} {decode : Decoder α} {other : Decoder β} {written : Json}
    {a : α} {b : β} (h : decode.Reads written a)
    (imp : ∀ room outline, decode room outline = .ok a → other room outline = .ok b) :
    other.Reads written b :=
  { h with decoded := fun arranges nested => imp _ _ (h.decoded arranges nested) }

namespace Codec

variable {α : Type}

/-- A value is read back from each arrangement of what is written for it. -/
def ReadsBack (codec : Codec α) (a : α) : Prop := codec.decode.Reads (codec.encode a) a

theorem readsBack_text (s : String) : text.ReadsBack s := Decoder.reads_text s

theorem readsBack_bool (b : Bool) : bool.ReadsBack b := Decoder.reads_bool b

theorem readsBack_choice {choices : List (String × α)} {name : α → String} {a : α}
    (named : Entries.find? (name a) choices = some a) : (choice choices name).ReadsBack a where
  distinct := .text _
  notNull := nofun
  numberFree h := by rw [h.eq_text]; rfl
  decoded {document room} h _ := by
    rw [h.eq_text]
    cases room <;> simp [choice, Decoder.choice, Outline.ofJson, named]

theorem ReadsBack.list {codec : Codec α} {items : List α} (each : ∀ a ∈ items, codec.ReadsBack a) :
    (list codec).ReadsBack items := by
  have arranged {document : Json} (h : document.Arranges ((Codec.list codec).encode items)) :
      ∃ documents, document = .array documents ∧ List.Forall₂
        (fun document a => codec.ReadsBack a ∧ document.Arranges (codec.encode a))
        documents items := by
    obtain ⟨documents, rfl, all⟩ := h.array
    exact ⟨documents, rfl, forall₂_and_right (List.forall₂_map_right_iff.1 all) each⟩
  constructor
  · exact .array (List.forall_mem_map.2 fun a mem => (each a mem).distinct)
  · exact nofun
  · intro document h
    obtain ⟨documents, rfl, all⟩ := arranged h
    exact allNumberFree_iff.2 (forall_mem_of_forall₂ all fun _ _ h => h.1.numberFree h.2)
  · intro document room h nested
    obtain ⟨documents, rfl, all⟩ := arranged h
    obtain ⟨less, rfl, shallow⟩ := depth_array_le_iff.1 nested
    refine Decoder.list_eq_ok_iff.2 ⟨less, _, rfl, rfl, ?_⟩
    rw [Outline.ofItems_eq_map, List.forall₂_map_left_iff]
    exact ((List.forall₂_and_left _ _).2 ⟨shallow, all⟩).imp fun _ _ h => h.2.1.decoded h.2.2 h.1

theorem ReadsBack.map {codec : Codec α} {map : NameMap α}
    (each : ∀ entry ∈ map.entries, codec.ReadsBack entry.2) : (Codec.map codec).ReadsBack map := by
  have names : ((map.entries.map fun entry => (entry.1, codec.encode entry.2)).map
      Prod.fst).Nodup := by
    rw [List.map_map]
    exact Entries.names_nodup map.ordered
  have arranged {document : Json} (h : document.Arranges ((Codec.map codec).encode map)) :
      ∃ members, ∃ entries : List (String × α), document = .object members ∧
        entries.Perm map.entries ∧ List.Forall₂
        (fun member entry => codec.ReadsBack entry.2 ∧
          ArrangesMember member (entry.1, codec.encode entry.2)) members entries := by
    obtain ⟨members, ordered, rfl, perm, all⟩ := h.object names
    obtain ⟨entries, permEntries, rfl⟩ := exists_eq_map_of_perm perm
    exact ⟨members, entries, rfl, permEntries,
      forall₂_and_right (List.forall₂_map_right_iff.1 all) fun entry mem =>
        each entry (permEntries.mem_iff.1 mem)⟩
  constructor
  · exact .object names (List.forall_mem_map.2 fun entry mem => (each entry mem).distinct)
  · exact nofun
  · intro document h
    obtain ⟨members, entries, rfl, -, all⟩ := arranged h
    exact allMembersNumberFree_iff.2 (forall_mem_of_forall₂ all fun _ _ h =>
      h.1.numberFree h.2.value)
  · intro document room h nested
    obtain ⟨members, entries, rfl, perm, all⟩ := arranged h
    obtain ⟨less, rfl, shallow⟩ := depth_object_le_iff.1 nested
    refine Decoder.map_eq_ok_iff.2
      ⟨less, _, entries, rfl, rfl, ?_, (NameMap.ofList_of_perm perm).symm⟩
    rw [Outline.ofMembers_eq_map, List.forall₂_map_left_iff]
    exact ((List.forall₂_and_left _ _).2 ⟨shallow, all⟩).imp fun _ _ h =>
      ⟨congrArg some h.2.2.name, h.2.1.decoded h.2.2.value h.1⟩

end Codec

theorem Decoder.reads_texts (items : List String) :
    (Decoder.list Decoder.text).Reads (.array (items.map .text)) items :=
  Codec.ReadsBack.list fun s _ => Codec.readsBack_text s

end Json

end ItemStore
