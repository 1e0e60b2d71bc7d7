import Mathlib
import ItemStore.Proofs.Json.Reordering
import ItemStore.Proofs.Text.Utf8
import ItemStore.Proofs.Update.Effects
import ItemStore.Proofs.Value.Documents

/-!
# ItemStore.Proofs.Update.Documents

Payloads that come as documents.

The payload of an object is in the order of its names, and has a name once at most, whatever the
object is like (`Payload.IsOf`). So an update takes it as any other payload
(`step_mergeDocument_of_ok`), and what the object says beyond that, the order of members and members
that are null, is lost on it.
-/

namespace ItemStore

open Expression (Placeholders isAlphanumeric namePlaceholder valuePlaceholder)

/-! ### Payloads of objects -/

namespace Payload

/--
Whether a payload has the attributes of an object: each name whose last value is not null, once and
with this value, in increasing order of the bytes of the names.
-/
structure IsOf (members : List (String × Json)) (payload : Payload) : Prop where
  mem_iff : ∀ name value, (name, value) ∈ payload ↔ ∃ document,
    Entries.last? members name = some document ∧ document ≠ .null ∧
      value = Value.ofJson document
  ordered : payload.Pairwise fun entry next =>
    Text.utf8 entry.1.toList < Text.utf8 next.1.toList

theorem ofDocument_eq_error_iff {document : Json} {refusal : Refusal} :
    ofDocument (.ok document) = .error refusal ↔
      (∀ members, document ≠ .object members) ∧ refusal = .payloadNotAnObject := by
  rw [eq_comm (a := refusal)]
  cases document <;> simp [ofDocument, Item.ofJson?]

/-- Documents that say the same are the same payload. -/
theorem ofDocument_congr {document other : Json} (h : document.canonical = other.canonical) :
    ofDocument (.ok document) = ofDocument (.ok other) := by
  have same : Item.ofJson? document = Item.ofJson? other := by
    rw [← Item.ofJson?_canonical document, h, Item.ofJson?_canonical]
  rw [ofDocument, ofDocument, same]

/-- Each object is a payload. -/
theorem exists_isOf (members : List (String × Json)) :
    ∃ payload, ofDocument (.ok (.object members)) = .ok payload ∧ payload.IsOf members := by
  obtain ⟨item, is, has⟩ := Item.ofJson?_object members
  refine ⟨item.entries, ?_, ?_, ?_⟩
  · rw [ofDocument, is]
  · intro name value
    rw [NameMap.mem_entries_iff, has, Option.bind_eq_some_iff]
    refine exists_congr fun document => and_congr_right fun _ => ?_
    cases document <;> simp [Json.isNull, eq_comm]
  · exact item.ordered.imp fun lt => Text.utf8_lt lt

/-- A member that is null says as much as none. -/
theorem ofDocument_filter {members : List (String × Json)} {name : String}
    (null : Entries.last? members name = some .null) :
    ofDocument (.ok (.object (members.filter fun member => member.1 ≠ name))) =
      ofDocument (.ok (.object members)) := by
  obtain ⟨item, is, has⟩ := Item.ofJson?_object members
  obtain ⟨other, isToo, hasToo⟩ :=
    Item.ofJson?_object (members.filter fun member => member.1 ≠ name)
  have same : other = item := NameMap.ext_find? fun n => by
    rw [has, hasToo, Entries.last?_filter_ne]
    split
    · rename_i eq
      rw [eq, null]
      rfl
    · rfl
  rw [ofDocument, ofDocument, is, isToo, same]

theorem IsOf.not_mem_attrs {members : List (String × Json)} {payload : Payload}
    (h : payload.IsOf members) {name : String} (null : Entries.last? members name = some .null) :
    name ∉ payload.attrs := by
  intro mem
  obtain ⟨entry, inside, rfl⟩ := List.mem_map.1 mem
  obtain ⟨document, last, filled, -⟩ := (h.mem_iff entry.1 entry.2).1 inside
  exact filled (Option.some.inj (last.symm.trans null))

end Payload

namespace Update

variable {update : Update}

/-! ### Attributes that a payload leaves alone -/

/-- The names that nothing is written to are told by the placeholders that told them before. -/
theorem find?_names_foldl_write {ws : List Write} {attr : String}
    (none : ∀ w ∈ ws, w.attr ≠ attr) {ph : String}
    (told : (ws.foldl write update).names.find? ph = some attr) :
    update.names.find? ph = some attr := by
  revert told
  refine foldl_write_induction (P := fun changed =>
    changed.names.find? ph = some attr → update.names.find? ph = some attr) ?_ id
  intro changed w mem before told
  rw [names_write, NameMap.find?_insert] at told
  split at told
  · exact absurd (Option.some.inj told) (none w mem)
  · exact before told

/-- The value of an attribute stays while others are written. -/
theorem find?_values_foldl_write (regular : update.placeholders.Regular) {attr body : String}
    (has : update.placeholders.bodies.find? attr = some body) {ws : List Write}
    (none : ∀ w ∈ ws, w.attr ≠ attr) :
    (ws.foldl write update).values.find? (valuePlaceholder body) =
      update.values.find? (valuePlaceholder body) := by
  refine (foldl_write_induction (P := fun changed => changed.placeholders.Regular ∧
    changed.placeholders.bodies.find? attr = some body ∧
      changed.values.find? (valuePlaceholder body) =
        update.values.find? (valuePlaceholder body)) ?_ ⟨regular, has, rfl⟩).2.2
  intro changed w mem ⟨regular, has, same⟩
  have kept := Placeholders.find?_body_of_find? has w.attr
  refine ⟨regular_write regular w, kept, ?_⟩
  rw [values_write, NameMap.find?_insert, if_neg, same]
  intro eq
  rw [Expression.Sigil.value.placeholder_injective eq] at kept
  exact none w mem ((regular.sound.body w.attr).distinct (Placeholders.find?_body _ _) kept)

/-- Behind the stamp of a payload, if there is one, no other value is written to its attribute. -/
theorem exists_writes_eq (clock : Clock) {payload : Payload} {audit : Audit}
    (due : update.isPending audit payload = true) :
    ∃ before after, update.writes clock payload =
        before ++ ⟨audit.form, audit.attr, update.stampValue clock audit⟩ :: after ∧
      ∀ w ∈ after, w.attr ≠ audit.attr := by
  have stamp : update.stampWrite? clock payload audit =
      some ⟨audit.form, audit.attr, update.stampValue clock audit⟩ := if_pos due
  cases audit with
  | created =>
      refine ⟨update.entryWrites payload, (update.stampWrite? clock payload .updated).toList, ?_,
        fun w mem => ?_⟩
      · rw [writes, stamp, List.append_assoc]
        rfl
      · obtain ⟨-, rfl⟩ := mem_stampWrite?_iff.1 (Option.mem_toList.1 mem)
        exact (by decide : Audit.updated.attr ≠ Audit.created.attr)
  | updated =>
      refine ⟨update.entryWrites payload ++ (update.stampWrite? clock payload .created).toList, [],
        ?_, fun w mem => absurd mem List.not_mem_nil⟩
      rw [writes, stamp]
      rfl

/-- A timestamp that is due is behind a payload what the update says it is. -/
theorem find?_values_merge (regular : update.placeholders.Regular) (clock : Clock)
    {payload : Payload} {audit : Audit} (due : update.isPending audit payload = true) :
    (update.merge clock payload).values.find? (valuePlaceholder audit.attr) =
      some (update.stampValue clock audit) := by
  obtain ⟨before, after, split, none⟩ := exists_writes_eq clock due
  have regularBefore := regular_foldl_write regular before
  have plain := regularBefore.body_eq audit.isAlphanumeric_attr
  have has := Placeholders.find?_body (before.foldl write update).placeholders audit.attr
  rw [plain] at has
  have kept := find?_values_foldl_write
    (regular_write regularBefore ⟨audit.form, audit.attr, update.stampValue clock audit⟩) has none
  rw [merge_eq]
  show ((update.writes clock payload).foldl write update).values.find? _ = _
  rw [split, List.foldl_append, List.foldl_cons, kept, values_write, plain]
  exact NameMap.find?_insert_self _ _ _

/-! ### Documents as payloads -/

/-- An update takes a document as the payload that it is. -/
theorem step_mergeDocument_of_ok {document : Json} {payload : Payload}
    (h : Payload.ofDocument (.ok document) = .ok payload) (update : Update) (world : World) :
    update.step world (.mergeDocument (.ok document)) = update.step world (.merge payload) := by
  rw [step_mergeDocument, h]
  rfl

theorem step_mergeDocument_congr {document other : Json}
    (h : Payload.ofDocument (.ok document) = Payload.ofDocument (.ok other)) (update : Update)
    (world : World) :
    update.step world (.mergeDocument (.ok document)) =
      update.step world (.mergeDocument (.ok other)) := by
  rw [step_mergeDocument, step_mergeDocument, h]

/-- Whether the next payload brings an attribute along as a timestamp, unless it has it itself. -/
def StampsNext (update : Update) (audit : Audit) : Prop :=
  (update.plan audit).enabled = true ∧ update.merged = false

/--
Whether an update takes an object as if a name were not in it: nothing is assigned to the attribute,
and if it is a timestamp it does not count as given.
-/
structure LeavesOut (update : Update) (world : World) (members : List (String × Json))
    (name : String) (behind : Update) : Prop where
  without : behind = (update.step world
    (.mergeDocument (.ok (.object (members.filter fun member => member.1 ≠ name))))).2
  names : (∀ audit, audit.attr = name → ¬update.StampsNext audit) →
    ∀ ph, behind.names.find? ph = some name → update.names.find? ph = some name
  values : (∀ audit, audit.attr = name → ¬update.StampsNext audit) →
    ∀ body, update.placeholders.bodies.find? name = some body →
      behind.values.find? (valuePlaceholder body) = update.values.find? (valuePlaceholder body)
  stamped : ∀ audit, audit.attr = name → update.StampsNext audit →
    behind.values.find? (valuePlaceholder name) = some (update.stampValue world.clock audit)

theorem isPending_iff {payload : Payload} {audit : Audit} (absent : audit.attr ∉ payload.attrs) :
    update.isPending audit payload = true ↔ update.StampsNext audit := by
  simp [isPending, StampsNext, absent]

/-- The only write to an attribute that a payload has not is its stamp. -/
theorem ne_of_mem_writes {clock : Clock} {payload : Payload} {attr : String}
    (absent : attr ∉ payload.attrs)
    (none : ∀ audit, audit.attr = attr → ¬update.StampsNext audit) {w : Write}
    (mem : w ∈ update.writes clock payload) : w.attr ≠ attr := by
  intro same
  rcases mem_writes_iff.1 mem with mem | ⟨audit, mem⟩
  · obtain ⟨entry, inside, -, rfl⟩ := mem_entryWrites_iff.1 mem
    exact absent (same ▸ List.mem_map_of_mem inside)
  · obtain ⟨due, rfl⟩ := mem_stampWrite?_iff.1 mem
    have eq : audit.attr = attr := same
    exact none audit eq ((isPending_iff (eq ▸ absent)).1 due)

theorem leavesOut_merge (regular : update.placeholders.Regular) {world : World}
    {members : List (String × Json)} {payload : Payload}
    (taken : Payload.ofDocument (.ok (.object members)) = .ok payload)
    (is : payload.IsOf members) {name : String} (null : Entries.last? members name = some .null) :
    update.LeavesOut world members name (update.merge world.clock payload) := by
  have absent := is.not_mem_attrs null
  constructor
  · rw [step_mergeDocument_of_ok ((Payload.ofDocument_filter null).trans taken)]
    rfl
  · intro none ph told
    rw [merge_eq] at told
    exact find?_names_foldl_write (fun w mem => ne_of_mem_writes absent none mem) told
  · intro none body has
    rw [merge_eq]
    exact find?_values_foldl_write regular has fun w mem => ne_of_mem_writes absent none mem
  · rintro audit rfl next
    exact find?_values_merge regular world.clock ((isPending_iff absent).2 next)

/--
Only objects are payloads. The payload of an object has the names whose last value is not null, each
once, in order of its bytes and with this value as an attribute value, in which null is kept. An
update in any state takes the object as it takes this payload. It takes it as if the names with null
were not there. Documents that differ in the order of members only leave the same update.
-/
theorem documents_taken :
    (∀ document refusal, Payload.ofDocument (.ok document) = .error refusal ↔
        (∀ members, document ≠ .object members) ∧ refusal = .payloadNotAnObject) ∧
      Value.IsConversion Value.ofJson ∧
      ∀ settings table key start, Update.start settings table key = .ok start →
        ∀ (calls : List (World × Call)) update, (start.run calls).2 = update → ∀ world,
          (∀ members, ∃ payload, Payload.ofDocument (.ok (.object members)) = .ok payload ∧
            payload.IsOf members ∧
            update.step world (.mergeDocument (.ok (.object members))) =
              update.step world (.merge payload) ∧
            ∀ name, Entries.last? members name = some .null →
              update.LeavesOut world members name (update.step world (.merge payload)).2) ∧
          ∀ document other, document.Reorders other →
            update.step world (.mergeDocument (.ok document)) =
              update.step world (.mergeDocument (.ok other)) := by
  refine ⟨fun _ _ => Payload.ofDocument_eq_error_iff, Value.isConversion_ofJson, ?_⟩
  intro settings table key start started calls update reached world
  have regular : update.placeholders.Regular := reached ▸ regular_run (fresh_of_start started) calls
  refine ⟨fun members => ?_, fun document other reorders => ?_⟩
  · obtain ⟨payload, taken, is⟩ := Payload.exists_isOf members
    exact ⟨payload, taken, is, step_mergeDocument_of_ok taken update world, fun name null =>
      leavesOut_merge regular taken is null⟩
  · exact step_mergeDocument_congr (Payload.ofDocument_congr reorders.canonical_eq) update world

/-- Members out of order, one of them twice and one with null, and null inside of another. -/
def looseMembers : List (String × Json) :=
  [("b", .number (.integer 1)), ("createdAt", .null), ("a", .object [("c", .null)]),
    ("b", .text "x")]

/-- Two objects that differ in the order of members, outside and inside. -/
def arrangedDocuments : Json × Json :=
  (.object [("b", .null), ("a", .array [.object [("c", .null), ("d", .bool true)]])],
    .object [("a", .array [.object [("d", .bool true), ("c", .null)]]), ("b", .null)])

theorem reorders_arrangedDocuments : arrangedDocuments.1.Reorders arrangedDocuments.2 := by
  have inside : Json.Reorders (.object [("c", .null), ("d", .bool true)])
      (.object [("d", .bool true), ("c", .null)]) :=
    .object [("c", .null, .null), ("d", .bool true, .bool true)] (by decide)
      (List.forall_mem_cons.2 ⟨.null, List.forall_mem_singleton.2 (.bool true)⟩) (.swap _ _ _)
  have list : Json.Reorders (.array [.object [("c", .null), ("d", .bool true)]])
      (.array [.object [("d", .bool true), ("c", .null)]]) :=
    .array [(_, _)] (List.forall_mem_singleton.2 inside)
  exact .object [("b", .null, .null), ("a", _, _)] (by simp)
    (List.forall_mem_cons.2 ⟨.null, List.forall_mem_singleton.2 list⟩) (.swap _ _ _)

theorem documents_taken_of_looseMembers :
    ∃ update payload, Update.start {} "t" [("id", .text "1")] = .ok update ∧
      Payload.ofDocument (.ok (.object looseMembers)) = .ok payload ∧
      payload.IsOf looseMembers ∧ payload.attrs = ["a", "b"] ∧
      update.LeavesOut default looseMembers "createdAt" (update.step default (.merge payload)).2 ∧
      update.StampsNext .created ∧
      update.step default (.mergeDocument (.ok arrangedDocuments.1)) =
        update.step default (.mergeDocument (.ok arrangedDocuments.2)) := by
  have started : Update.start {} "t" [("id", .text "1")] = .ok _ := rfl
  obtain ⟨-, -, taken⟩ := documents_taken
  obtain ⟨objects, arranged⟩ := taken _ _ _ _ started [] _ rfl default
  obtain ⟨payload, made, is, -, left⟩ := objects looseMembers
  have attrs : Payload.ofDocument (.ok (.object looseMembers)) = .ok _ := rfl
  obtain rfl := Except.ok.inj (made.symm.trans attrs)
  exact ⟨_, _, started, made, is, by decide +kernel, left "createdAt" rfl, ⟨rfl, rfl⟩,
    arranged _ _ reorders_arrangedDocuments⟩

end Update

end ItemStore
