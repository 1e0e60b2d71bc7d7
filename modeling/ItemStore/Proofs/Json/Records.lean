import Mathlib
import ItemStore.Proofs.Json.Arranged

/-!
# ItemStore.Proofs.Json.Records

Records that are written and read back.

A field is read back if its value is, when it is written, and if it is the value of an absent field,
when it is left out (`Field.ReadsBack`). A record whose fields have different names is then read
back from its members in any order: the members met so far fill the slots of their fields with the
values of the record (`Fields.slots`), and those that are never met are absent.
-/

namespace ItemStore.Json

/-! ### Fields -/

/-- A value of a field is read back if it is written, and supplied if it is left out. -/
structure Field.ReadsBack {α : Type} (field : Field α) (a : α) : Prop where
  /-- The field is read with the name it is written with only. -/
  plain : field.aliases = []
  written : ∀ {value : Json}, field.encode a = some value → field.decode.Reads value a
  leftOut : field.encode a = none → field.absent = some a

namespace Field

variable {α : Type} {name : String} {codec : Codec α}

theorem ReadsBack.answers_iff {field : Field α} {a : α} (h : field.ReadsBack a) :
    field.answers name = true ↔ name = field.name := by
  simp [answers, h.plain]

theorem readsBack_required {a : α} (h : codec.ReadsBack a) : (required name codec).ReadsBack a where
  plain := rfl
  written eq := Option.some.inj eq ▸ h
  leftOut := nofun

theorem readsBack_defaulted {a fallback : α} (h : codec.ReadsBack a) :
    (defaulted name codec fallback).ReadsBack a where
  plain := rfl
  written eq := Option.some.inj eq ▸ h
  leftOut := nofun

/-- Null is no value, so a decoder that may find null finds the value that is not. -/
theorem reads_optional {decode : Decoder α} {value : Json} {a : α} (h : decode.Reads value a) :
    (Decoder.optional decode).Reads value (some a) where
  distinct := h.distinct
  notNull := h.notNull
  numberFree := h.numberFree
  decoded {document room} arranges nested := by
    have decoded := h.decoded arranges nested
    have notNull : document ≠ .null := by
      rintro rfl
      have same := arranges.same
      have notNull := h.notNull
      cases value <;> simp [canonical] at same notNull
    cases document with
    | null => exact absurd rfl notNull
    | _ => exact congrArg (Except.map some) decoded

theorem readsBack_optional {option : Option α} (h : ∀ a, option = some a → codec.ReadsBack a) :
    (optional name codec).ReadsBack option where
  plain := rfl
  written {value} eq := by
    obtain ⟨a, rfl, rfl⟩ := Option.map_eq_some_iff.1 eq
    exact reads_optional (h a rfl)
  leftOut eq := by rw [Option.map_eq_none_iff.1 eq]; rfl

theorem readsBack_mapping {map : NameMap α}
    (each : ∀ entry ∈ map.entries, codec.ReadsBack entry.2) :
    (mapping name codec).ReadsBack map where
  plain := rfl
  written eq := by
    obtain ⟨-, eq⟩ := Option.ite_none_left_eq_some.1 eq
    exact Option.some.inj eq ▸ Codec.ReadsBack.map each
  leftOut eq := by
    obtain ⟨entries, ordered⟩ := map
    cases entries with
    | nil => rfl
    | cons entry rest => simp [mapping, NameMap.isEmpty] at eq

theorem readsBack_listing {items : List α} (each : ∀ a ∈ items, codec.ReadsBack a) :
    (listing name codec).ReadsBack items where
  plain := rfl
  written eq := by
    obtain ⟨-, eq⟩ := Option.ite_none_left_eq_some.1 eq
    exact Option.some.inj eq ▸ Codec.ReadsBack.list each
  leftOut eq := by
    cases items with
    | nil => rfl
    | cons item rest => simp [listing] at eq

end Field

/-! ### Rows -/

namespace Fields

variable {types : List Type}

/-- The names with which fields are written. -/
def names {types : List Type} : Fields types → List String
  | .nil => []
  | .cons field rest => field.name :: rest.names

/-- The value of each field is read back. -/
def ReadsBack {types : List Type} : Fields types → Row types → Prop
  | .nil, _ => True
  | .cons field rest, (a, row) => field.ReadsBack a ∧ rest.ReadsBack row

/-- The slots once the fields with some names are met and have the values of a row. -/
def slots {types : List Type} : Fields types → Row types → List String → Slots types
  | .nil, _, _ => ()
  | .cons field rest, (a, row), met =>
      (if field.name ∈ met then some a else none, rest.slots row met)

theorem slots_nil : {types : List Type} → (fields : Fields types) → (row : Row types) →
    fields.slots row [] = fields.noSlots
  | _, .nil, _ => rfl
  | _, .cons _ rest, (_, row) => by
      rw [slots, rest.slots_nil row]
      rfl

/-- A name that no field has makes no difference. -/
theorem slots_cons_of_not_mem {name : String} {met : List String} : {types : List Type} →
    (fields : Fields types) → (row : Row types) → name ∉ fields.names →
    fields.slots row (name :: met) = fields.slots row met
  | _, .nil, _, _ => rfl
  | _, .cons field rest, (a, row), other => by
      obtain ⟨ne, others⟩ := not_or.1 (mt List.mem_cons.2 other)
      rw [slots, slots, rest.slots_cons_of_not_mem row others]
      simp only [List.mem_cons, Ne.symm ne, false_or]
      rfl

theorem mem_members_cons_iff {α : Type} {field : Field α} {rest : Fields types} {a : α}
    {row : Row types} {name : String} {value : Json} :
    (name, value) ∈ (Fields.cons field rest).members (a, row) ↔
      name = field.name ∧ field.encode a = some value ∨ (name, value) ∈ rest.members row := by
  rw [members]
  cases field.encode a <;> simp [eq_comm]

theorem members_sublist : {types : List Type} → (fields : Fields types) → (row : Row types) →
    ((fields.members row).map Prod.fst).Sublist fields.names
  | _, .nil, _ => .slnil
  | _, .cons field rest, (a, row) => by
      rw [members]
      cases field.encode a with
      | none => exact (rest.members_sublist row).cons _
      | some value => exact (rest.members_sublist row).cons_cons _

theorem mem_names {fields : Fields types} {row : Row types} {member : String × Json}
    (mem : member ∈ fields.members row) : member.1 ∈ fields.names :=
  (fields.members_sublist row).subset (List.mem_map_of_mem mem)

/-- What is written has distinct names and no numbers in it. -/
theorem ReadsBack.member {name : String} {value : Json} : {types : List Type} →
    {fields : Fields types} → {row : Row types} → fields.ReadsBack row →
    (name, value) ∈ fields.members row → value.HasDistinctNames ∧
      ∀ {document : Json}, document.Arranges value → document.isNumberFree = true
  | _, .nil, _, _, mem => absurd mem List.not_mem_nil
  | _, .cons field rest, (a, row), h, mem => by
      rcases mem_members_cons_iff.1 mem with ⟨-, written⟩ | mem
      · exact ⟨(h.1.written written).distinct, (h.1.written written).numberFree⟩
      · exact ReadsBack.member h.2 mem

section Put

variable {α : Type} {field : Field α} {rest : Fields types} {room : Nat} {name : String}
  {outline : Outline} {slots : Slots types}

theorem put?_of_answers (h : field.answers name = true) :
    (Fields.cons field rest).put? room name outline (none, slots) =
      some ((field.decode room outline).map fun a => (some a, slots)) :=
  if_pos h

theorem put?_of_not_answers (h : ¬field.answers name = true) (slot : Option α) :
    (Fields.cons field rest).put? room name outline (slot, slots) =
      (rest.put? room name outline slots).map fun result => result.map fun slots => (slot, slots) :=
  if_neg h

end Put

/-- A member that is met for the first time fills the slot of its field. -/
theorem put?_slots {name : String} {value document : Json} {room : Nat} {met : List String}
    (new : name ∉ met) (arranges : document.Arranges value) (nested : document.depth ≤ room) :
    {types : List Type} → (fields : Fields types) → (row : Row types) → fields.ReadsBack row →
    fields.names.Nodup → (name, value) ∈ fields.members row →
    fields.put? room name (Outline.ofJson document) (fields.slots row met) =
      some (.ok (fields.slots row (name :: met)))
  | _, .nil, _, _, _, mem => absurd mem List.not_mem_nil
  | _, .cons field rest, (a, row), h, distinct, mem => by
      obtain ⟨fresh, distinct⟩ := List.nodup_cons.1 distinct
      rcases mem_members_cons_iff.1 mem with ⟨rfl, written⟩ | mem
      · have decoded := (h.1.written written).decoded arranges nested
        rw [slots, if_neg new, put?_of_answers (h.1.answers_iff.2 rfl), decoded, slots,
          rest.slots_cons_of_not_mem row fresh, if_pos List.mem_cons_self]
        rfl
      · have other : name ≠ field.name := by
          rintro rfl
          exact fresh (mem_names mem)
        have others := put?_slots new arranges nested rest row h.2 distinct mem
        rw [slots, put?_of_not_answers (mt h.1.answers_iff.1 other), others, slots]
        simp only [List.mem_cons, Ne.symm other, false_or]
        rfl

/-- All members, met one after the other, fill the slots of their fields. -/
theorem putAll_slots {fields : Fields types} {row : Row types} {room : Nat}
    (h : fields.ReadsBack row) (distinct : fields.names.Nodup)
    {arranged ordered : List (String × Json)} (all : List.Forall₂ ArrangesMember arranged ordered)
    (nested : ∀ member ∈ arranged, member.2.depth ≤ room)
    (written : ∀ member ∈ ordered, member ∈ fields.members row)
    {met : List String} (new : (ordered.map Prod.fst ++ met).Nodup) :
    fields.putAll room (Outline.ofMembers arranged) (fields.slots row met) =
      .ok (fields.slots row ((ordered.map Prod.fst).reverse ++ met)) := by
  induction all generalizing met with
  | nil => rfl
  | @cons member other arranged ordered arranges _ ih =>
      obtain ⟨name, document⟩ := member
      obtain ⟨_, value⟩ := other
      obtain ⟨rfl, arranges⟩ := arranges
      obtain ⟨shallow, nested⟩ := List.forall_mem_cons.1 nested
      obtain ⟨mem, written⟩ := List.forall_mem_cons.1 written
      rw [List.map_cons, List.cons_append] at new
      have fresh : name ∉ met := fun mem =>
        (List.nodup_cons.1 new).1 (List.mem_append_right _ mem)
      have first := put?_slots fresh arranges shallow fields row h distinct mem
      have others := ih nested written (List.perm_middle.nodup_iff.2 new)
      rw [Outline.ofMembers, putAll, first]
      simp only [others]
      simp

/-! ### Members that nobody asks for -/

/-- Whether one of the fields is read with a name. -/
def answers {types : List Type} : Fields types → String → Bool
  | .nil, _ => false
  | .cons field rest, name => field.answers name || rest.answers name

theorem put?_of_not_answered {name : String} (room : Nat) (value : Outline) :
    {types : List Type} → {fields : Fields types} → fields.answers name = false →
    (slots : Slots types) → fields.put? room name value slots = none
  | _, .nil, _, _ => rfl
  | _, .cons field rest, h, (slot, slots) => by
      obtain ⟨other, others⟩ := Bool.or_eq_false_iff.1 h
      rw [put?_of_not_answers (Bool.eq_false_iff.1 other) slot,
        put?_of_not_answered room value others slots]
      rfl

/-- Members that no field is read with make no difference, as long as their values end. -/
theorem putAll_filter (fields : Fields types) (room : Nat)
    {members : List (Option String × Outline)}
    (skipped : ∀ name value, (some name, value) ∈ members → fields.answers name = false →
      value.isComplete = true) (slots : Slots types) :
    fields.putAll room (members.filter fun member => member.1.elim true fields.answers) slots =
      fields.putAll room members slots := by
  induction members generalizing slots with
  | nil => rfl
  | cons member rest ih =>
      have others := ih fun name value mem => skipped name value (List.mem_cons_of_mem _ mem)
      obtain ⟨_ | name, value⟩ := member
      · rfl
      cases asked : fields.answers name with
      | true =>
          rw [List.filter_cons, if_pos (by simpa using asked), putAll, putAll]
          simp only [others]
      | false =>
          rw [List.filter_cons, if_neg (by simpa using asked), putAll,
            put?_of_not_answered room _ asked]
          simp only [skipped name value List.mem_cons_self asked, if_true]
          exact others slots

/-! ### Defaults -/

/-- A slot that is not filled is that of an absent field. -/
theorem fill_slots {met : List String} : {types : List Type} → (fields : Fields types) →
    (row : Row types) → fields.ReadsBack row →
    (∀ member ∈ fields.members row, member.1 ∈ met) → fields.fill (fields.slots row met) = .ok row
  | _, .nil, _, _, _ => rfl
  | _, .cons field rest, (a, row), h, all => by
      have others := rest.fill_slots row h.2 fun member mem =>
        all member (mem_members_cons_iff.2 (.inr mem))
      have found : (if field.name ∈ met then some a else none).or field.absent = some a := by
        by_cases mem : field.name ∈ met
        · rw [if_pos mem, Option.some_or]
        · have leftOut : field.encode a = none := by
            cases written : field.encode a with
            | none => rfl
            | some value => exact absurd (all _ (mem_members_cons_iff.2 (.inl ⟨rfl, written⟩))) mem
          rw [if_neg mem, Option.none_or, h.1.leftOut leftOut]
      rw [slots, fill]
      simp only [found, others]
      rfl

end Fields

/-! ### Records -/

/-- An object is read by the members that a field is read with, as long as the others end. -/
theorem Record.decode_object {α : Type} (record : Record α)
    {members : List (Option String × Outline)}
    (skipped : ∀ name value, (some name, value) ∈ members → record.fields.answers name = false →
      value.isComplete = true) (room : Nat) :
    record.decode (room + 1) (.object members true) =
      (record.fields.putAll room
        (members.filter fun member => member.1.elim true record.fields.answers)
        record.fields.noSlots).bind fun slots => (record.fields.fill slots).map record.ofRow := by
  rw [Fields.putAll_filter _ room skipped, decode]
  cases record.fields.putAll room members record.fields.noSlots with
  | error fault => rfl
  | ok slots =>
      show _ = (record.fields.fill slots).map record.ofRow
      cases filled : record.fields.fill slots <;> simp [bind, Except.bind, filled] <;> rfl

/-- A record is read back if its fields are, and no two of them have the same name. -/
theorem Record.readsBack {α : Type} {record : Record α} {a : α}
    (distinct : record.fields.names.Nodup) (fields : record.fields.ReadsBack (record.toRow a))
    (whole : record.ofRow (record.toRow a) = a) : record.codec.ReadsBack a := by
  have names := (record.fields.members_sublist (record.toRow a)).nodup distinct
  constructor
  · exact .object names fun member mem => (fields.member mem).1
  · exact nofun
  · intro document h
    obtain ⟨arranged, ordered, rfl, perm, all⟩ := h.object names
    have written := forall₂_and_right all fun member mem => fields.member (perm.mem_iff.1 mem)
    exact allMembersNumberFree_iff.2 (forall_mem_of_forall₂ written fun _ _ h => h.1.2 h.2.value)
  · intro document room h nested
    obtain ⟨arranged, ordered, rfl, perm, all⟩ := h.object names
    obtain ⟨less, rfl, shallow⟩ := depth_object_le_iff.1 nested
    have new : (ordered.map Prod.fst ++ []).Nodup := by
      rw [List.append_nil]
      exact (perm.map Prod.fst).nodup_iff.2 names
    have met := Fields.putAll_slots fields distinct all shallow
      (fun member mem => perm.mem_iff.1 mem) new
    have filled : record.fields.fill (record.fields.slots (record.toRow a)
        ((ordered.map Prod.fst).reverse ++ [])) = .ok (record.toRow a) :=
      Fields.fill_slots _ _ fields fun member mem => by
        simpa using ⟨member.2, perm.mem_iff.2 mem⟩
    rw [Fields.slots_nil] at met
    show record.decode (less + 1) (.object (Outline.ofMembers arranged) true) = _
    rw [Record.decode, met]
    simp only [bind, Except.bind, filled, whole]
    rfl

end ItemStore.Json
