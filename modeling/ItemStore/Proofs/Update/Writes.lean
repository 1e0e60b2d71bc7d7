import Mathlib
import ItemStore.Proofs.Expression.Assignment
import ItemStore.Update.Call

/-!
# ItemStore.Proofs.Update.Writes

What an update writes of its own accord: payloads and timestamps as a list of single writes.

A payload is taken by assigning its entries one after the other, and the timestamps behind them. The
decisions on the way look at the key, the marks, the lock and the timestamps, and none of these
changes while the payload is taken. So they can all be made in front (`Update.writes`), and what
remains is a fold (`merge_eq`). The facts about taking a payload are facts about that fold:

* `find?_foldl_write`, `isNamed_foldl_write`: attributes keep their bodies, and the names tell them;
* `set_foldl_write`: which fragments the SET clause gets.
-/

namespace ItemStore

open Expression (ClauseKind Clauses Form IsWord Placeholders isAlphanumeric namePlaceholder
  valuePlaceholder)

/-- An assignment of a value to an attribute. -/
structure Write where
  form : Form
  attr : String
  value : Value
deriving DecidableEq

/-- The form in which a timestamp is written: the time of creation stays once it is there. -/
def Audit.form : Audit → Form
  | .created => .ifAbsent
  | .updated => .plain

theorem Audit.isAlphanumeric_attr (audit : Audit) : isAlphanumeric audit.attr = true := by
  cases audit <;> decide

/-! ### Registries of updates -/

namespace Expression.Placeholders

/-- What holds of the registry of every update under construction. -/
structure Regular (registry : Placeholders) : Prop where
  /-- Bodies are distinct and well formed. -/
  sound : registry.Sound
  /-- The body of the increment belongs to no attribute. -/
  withholds : registry.Withholds incrementBody
  /-- Names of letters and digits have their plain bodies, or can still get them. -/
  spares : ∀ {name}, isAlphanumeric name = true → registry.Spares name

theorem regular_start : (reserve ∅ incrementBody).Regular where
  sound := sound_empty.reserve incrementBody
  withholds := ⟨by decide, fun name h => by cases h⟩
  spares {name} alphanumeric := by
    have ne : name ≠ incrementBody := by
      rintro rfl
      exact absurd alphanumeric (by decide)
    right
    rw [reserve, NameSet.contains_add, beq_false_of_ne ne]
    exact ⟨rfl, rfl⟩

theorem Regular.body {registry : Placeholders} (h : registry.Regular) (name : String) :
    (registry.body name).2.Regular where
  sound := h.sound.body name
  withholds := h.withholds.body name
  spares alphanumeric := (h.spares alphanumeric).body alphanumeric name

/-- The body of a name of letters and digits is the name. -/
theorem Regular.body_eq {registry : Placeholders} (h : registry.Regular) {name : String}
    (alphanumeric : isAlphanumeric name = true) : (registry.body name).1 = name :=
  (h.spares alphanumeric).body_eq alphanumeric

theorem Regular.find?_body {registry : Placeholders} (h : registry.Regular) {name : String}
    (alphanumeric : isAlphanumeric name = true) :
    (registry.body name).2.bodies.find? name = some name := by
  rw [Placeholders.find?_body, h.body_eq alphanumeric]

/-- No attribute has the placeholder by which the revision grows. -/
theorem Regular.valuePlaceholder_ne {registry : Placeholders} (h : registry.Regular)
    {attr body : String} (has : registry.bodies.find? attr = some body) :
    valuePlaceholder incrementBody ≠ valuePlaceholder body := by
  intro eq
  rw [← Expression.Sigil.value.placeholder_injective eq] at has
  exact h.withholds.unused attr has

end Expression.Placeholders

namespace Update

variable {update : Update}

/-! ### Single writes -/

/-- Writes a value to an attribute. -/
def write (update : Update) (w : Write) : Update :=
  update.assignBy w.form.fragment w.attr w.value

@[simp] theorem clauses_write (update : Update) (w : Write) :
    (update.write w).clauses =
      update.clauses.pushUnique .set (w.form.text (update.placeholders.body w.attr).1) := rfl

@[simp] theorem names_write (update : Update) (w : Write) :
    (update.write w).names =
      update.names.insert (namePlaceholder (update.placeholders.body w.attr).1) w.attr := rfl

@[simp] theorem values_write (update : Update) (w : Write) :
    (update.write w).values =
      update.values.insert (valuePlaceholder (update.placeholders.body w.attr).1) w.value := rfl

/-- What no single write changes, no number of them changes. -/
theorem foldl_write_of_write {α : Type} (field : Update → α)
    (h : ∀ update w, field (write update w) = field update) (ws : List Write) (update : Update) :
    field (ws.foldl write update) = field update := by
  induction ws generalizing update with
  | nil => rfl
  | cons w ws ih => rw [List.foldl_cons, ih, h]

/-- What every single write keeps, any number of them keeps. -/
theorem foldl_write_induction {P : Update → Prop} {ws : List Write}
    (h : ∀ update, ∀ w ∈ ws, P update → P (write update w)) (start : P update) :
    P (ws.foldl write update) := by
  induction ws generalizing update with
  | nil => exact start
  | cons w ws ih =>
      exact ih (fun update w mem => h update w (List.mem_cons_of_mem _ mem))
        (h update w List.mem_cons_self start)

/-! ### Payloads as writes -/

/-- The write that an entry of a payload makes, if it makes one. -/
def entryWrite? (update : Update) (entry : String × Value) : Option Write :=
  if update.admits entry.1 then some ⟨.plain, entry.1, update.storedValue entry.1 entry.2⟩
  else none

/-- The writes that the entries of a payload make. -/
def entryWrites (update : Update) (payload : Payload) : List Write :=
  payload.filterMap update.entryWrite?

/-- The write that a timestamp makes along with a payload, if it is due. -/
def stampWrite? (update : Update) (clock : Clock) (payload : Payload) (audit : Audit) :
    Option Write :=
  if update.isPending audit payload then
    some ⟨audit.form, audit.attr, update.stampValue clock audit⟩
  else none

/-- The writes that a payload makes: its entries, and the timestamps behind them. -/
def writes (update : Update) (clock : Clock) (payload : Payload) : List Write :=
  update.entryWrites payload ++ (update.stampWrite? clock payload .created).toList ++
    (update.stampWrite? clock payload .updated).toList

theorem mem_entryWrites_iff {payload : Payload} {w : Write} :
    w ∈ update.entryWrites payload ↔ ∃ entry ∈ payload, update.admits entry.1 = true ∧
      w = ⟨.plain, entry.1, update.storedValue entry.1 entry.2⟩ := by
  simp only [entryWrites, List.mem_filterMap, entryWrite?, Option.ite_none_right_eq_some,
    Option.some.injEq, eq_comm (a := w)]

theorem mem_stampWrite?_iff {clock : Clock} {payload : Payload} {audit : Audit} {w : Write} :
    w ∈ update.stampWrite? clock payload audit ↔ update.isPending audit payload = true ∧
      w = ⟨audit.form, audit.attr, update.stampValue clock audit⟩ := by
  simp only [stampWrite?, Option.mem_def, Option.ite_none_right_eq_some, Option.some.injEq,
    eq_comm (a := w)]

/-- A payload makes the writes of its entries that are admitted, and of the timestamps due. -/
theorem mem_writes_iff {clock : Clock} {payload : Payload} {w : Write} :
    w ∈ update.writes clock payload ↔
      w ∈ update.entryWrites payload ∨ ∃ audit, w ∈ update.stampWrite? clock payload audit := by
  rw [writes, List.mem_append, List.mem_append, Option.mem_toList, Option.mem_toList, or_assoc]
  refine or_congr_right ⟨fun h => ?_, fun ⟨audit, mem⟩ => ?_⟩
  · exact h.elim (fun mem => ⟨.created, mem⟩) fun mem => ⟨.updated, mem⟩
  · cases audit with
    | created => exact .inl mem
    | updated => exact .inr mem

/-- Payloads and timestamps increment nothing. -/
theorem form_ne_increment_of_mem_writes {clock : Clock} {payload : Payload} {w : Write}
    (mem : w ∈ update.writes clock payload) : w.form ≠ .increment := by
  rcases mem_writes_iff.1 mem with mem | ⟨audit, mem⟩
  · obtain ⟨entry, -, -, rfl⟩ := mem_entryWrites_iff.1 mem
    exact fun h => by cases h
  · obtain ⟨-, rfl⟩ := mem_stampWrite?_iff.1 mem
    cases audit <;> exact fun h => by cases h

/-- Payloads and timestamps leave the revision of a locked update alone. -/
theorem attr_ne_revision_of_mem_writes (locked : update.locked = true) {clock : Clock}
    {payload : Payload} {w : Write} (mem : w ∈ update.writes clock payload) :
    w.attr ≠ revisionAttr := by
  rcases mem_writes_iff.1 mem with mem | ⟨audit, mem⟩
  · obtain ⟨entry, -, admitted, rfl⟩ := mem_entryWrites_iff.1 mem
    intro eq
    simp [admits, locked, show entry.1 = revisionAttr from eq] at admitted
  · obtain ⟨-, rfl⟩ := mem_stampWrite?_iff.1 mem
    show audit.attr ≠ revisionAttr
    cases audit <;> decide

/-- The entries of a payload are taken by the writes that they make. -/
theorem foldl_contribute (update : Update) (payload : Payload) :
    payload.foldl contribute update = (update.entryWrites payload).foldl write update := by
  induction payload generalizing update with
  | nil => rfl
  | cons entry rest ih =>
      rw [List.foldl_cons, contribute, entryWrites]
      by_cases h : update.admits entry.1 = true
      · have made : update.entryWrite? entry =
            some ⟨.plain, entry.1, update.storedValue entry.1 entry.2⟩ := if_pos h
        rw [if_pos h, List.filterMap_cons_some made, ih]
        rfl
      · have none : update.entryWrite? entry = none := if_neg h
        rw [if_neg h, List.filterMap_cons_none none, ih]
        rfl

theorem stampWrite?_write (update : Update) (w : Write) (clock : Clock) (payload : Payload)
    (audit : Audit) :
    (update.write w).stampWrite? clock payload audit = update.stampWrite? clock payload audit := by
  cases audit <;> rfl

/-- The timestamps are written by the writes that they make. -/
theorem stampFor_eq (update : Update) (clock : Clock) (payload : Payload) :
    update.stampFor clock payload =
      { ((update.stampWrite? clock payload .created).toList ++
          (update.stampWrite? clock payload .updated).toList).foldl write update with
        merged := true } := by
  have stamp : ∀ (update : Update) (audit : Audit),
      (update.stampWrite? clock payload audit).toList.foldl write update =
        if update.isPending audit payload then
          update.write ⟨audit.form, audit.attr, update.stampValue clock audit⟩ else update := by
    intro update audit
    unfold stampWrite?
    split <;> rfl
  -- Whether the second is due, and what it says, does not depend on the first.
  have due : (update.stampWrite? clock payload .updated) =
      ((update.stampWrite? clock payload .created).toList.foldl write update).stampWrite?
        clock payload .updated :=
    (foldl_write_of_write (fun update => update.stampWrite? clock payload .updated)
      (fun update w => stampWrite?_write update w clock payload .updated) _ update).symm
  rw [List.foldl_append, due, stamp _ .updated, stamp _ .created]
  rfl

/-- Taking a payload makes its writes, one after the other. -/
theorem merge_eq (update : Update) (clock : Clock) (payload : Payload) :
    update.merge clock payload =
      { (update.writes clock payload).foldl write update with merged := true } := by
  have due : ∀ audit, (((update.entryWrites payload).foldl write update).stampWrite?
      clock payload audit) = update.stampWrite? clock payload audit := fun audit =>
    foldl_write_of_write (fun update => update.stampWrite? clock payload audit)
      (fun update w => stampWrite?_write update w clock payload audit) _ update
  rw [merge, foldl_contribute, stampFor_eq, due, due, ← List.foldl_append, writes,
    List.append_assoc]

/-! ### Names and bodies after writes -/

theorem regular_write (h : update.placeholders.Regular) (w : Write) :
    (update.write w).placeholders.Regular := h.body w.attr

theorem regular_foldl_write (h : update.placeholders.Regular) (ws : List Write) :
    (ws.foldl write update).placeholders.Regular :=
  foldl_write_induction (P := fun update => update.placeholders.Regular)
    (fun _ w _ regular => regular_write regular w) h

/-- An attribute keeps its body, whatever is written. -/
theorem find?_foldl_write {attr body : String}
    (h : update.placeholders.bodies.find? attr = some body) (ws : List Write) :
    (ws.foldl write update).placeholders.bodies.find? attr = some body :=
  foldl_write_induction (P := fun update => update.placeholders.bodies.find? attr = some body)
    (fun _ w _ has => Placeholders.find?_body_of_find? has w.attr) h

/-- Whether an attribute has a placeholder, and the names tell that it stands for the attribute. -/
def IsNamed (update : Update) (attr : String) : Prop :=
  ∃ body, update.placeholders.bodies.find? attr = some body ∧
    update.names.find? (namePlaceholder body) = some attr

theorem isNamed_write_self (update : Update) (w : Write) : (update.write w).IsNamed w.attr :=
  ⟨_, Placeholders.find?_body _ _, NameMap.find?_insert_self _ _ _⟩

theorem IsNamed.write {attr : String} (h : update.IsNamed attr)
    (sound : update.placeholders.Sound) (w : Write) : (update.write w).IsNamed attr := by
  obtain ⟨body, has, named⟩ := h
  have kept := Placeholders.find?_body_of_find? has w.attr
  refine ⟨body, kept, ?_⟩
  rw [names_write, NameMap.find?_insert]
  split
  · rename_i eq
    -- The placeholder is that of the written attribute, so the attributes are the same.
    have same := Expression.Sigil.name.placeholder_injective eq
    rw [same] at kept
    rw [(sound.body w.attr).distinct kept (Placeholders.find?_body _ _)]
  · exact named

/-- After some writes the names tell every attribute that was written. -/
theorem isNamed_foldl_write (h : update.placeholders.Regular) {ws : List Write} {w : Write}
    (mem : w ∈ ws) : (ws.foldl write update).IsNamed w.attr := by
  obtain ⟨before, after, rfl⟩ := List.append_of_mem mem
  rw [List.foldl_append, List.foldl_cons]
  have regular := regular_write (regular_foldl_write h before) w
  refine (foldl_write_induction
    (P := fun update => update.placeholders.Regular ∧ update.IsNamed w.attr) ?_
    ⟨regular, isNamed_write_self _ w⟩).2
  intro update next _ kept
  exact ⟨regular_write kept.1 next, kept.2.write kept.1.sound next⟩

/-! ### The SET clause after writes -/

/-- A fragment that is pushed but there already is not added. -/
theorem set_pushUnique (clauses : Clauses) (fragment : String) :
    (clauses.pushUnique .set fragment).set =
      clauses.set ++ if fragment ∈ clauses.set then [] else [fragment] := by
  unfold Clauses.pushUnique
  by_cases h : fragment ∈ clauses.set
  · rw [if_pos h, if_pos (show fragment ∈ clauses.fragments .set from h), List.append_nil]
  · rw [if_neg h, if_neg (show fragment ∉ clauses.fragments .set from h)]
    rfl

theorem fragments_pushUnique_of_ne {clauses : Clauses} {kind other : ClauseKind} {text : String}
    (ne : other ≠ kind) :
    (clauses.pushUnique kind text).fragments other = clauses.fragments other := by
  unfold Clauses.pushUnique
  split
  · rfl
  · exact Clauses.fragments_push_of_ne ne

/-- The fragment that a write is made by, in an update that has made it. -/
def IsFragmentOf (update : Update) (fragment : String) (w : Write) : Prop :=
  ∃ body, update.placeholders.bodies.find? w.attr = some body ∧ fragment = w.form.text body

/-- Writes add their fragments to the SET clause, those that are not there already. -/
theorem set_foldl_write (ws : List Write) (update : Update) :
    ∃ added, (ws.foldl write update).clauses.set = update.clauses.set ++ added ∧
      ∀ fragment, fragment ∈ added ↔ fragment ∉ update.clauses.set ∧
        ∃ w ∈ ws, (ws.foldl write update).IsFragmentOf fragment w := by
  induction ws generalizing update with
  | nil => exact ⟨[], by simp, by simp⟩
  | cons w ws ih =>
      obtain ⟨added, eq, spec⟩ := ih (update.write w)
      have body : (ws.foldl write (update.write w)).placeholders.bodies.find? w.attr = some _ :=
        find?_foldl_write (Placeholders.find?_body update.placeholders w.attr) ws
      have own : ∀ fragment, (ws.foldl write (update.write w)).IsFragmentOf fragment w ↔
          fragment = w.form.text (update.placeholders.body w.attr).1 := by
        intro fragment
        constructor
        · rintro ⟨other, has, rfl⟩
          rw [Option.some.inj (has.symm.trans body)]
        · rintro rfl
          exact ⟨_, body, rfl⟩
      rw [clauses_write, set_pushUnique] at eq spec
      refine ⟨_, by rw [List.foldl_cons, eq, List.append_assoc], fun fragment => ?_⟩
      rw [List.foldl_cons, List.mem_append, spec, List.mem_append, not_or, List.exists_mem_cons_iff,
        own]
      split <;> rename_i there
      · constructor
        · rintro (none | ⟨⟨new, -⟩, other⟩)
          · cases none
          · exact ⟨new, .inr other⟩
        · rintro ⟨new, rfl | other⟩
          · exact absurd there new
          · exact .inr ⟨⟨new, List.not_mem_nil⟩, other⟩
      · rw [List.mem_singleton]
        constructor
        · rintro (rfl | ⟨⟨new, -⟩, other⟩)
          · exact ⟨there, .inl rfl⟩
          · exact ⟨new, .inr other⟩
        · rintro ⟨new, eq | other⟩
          · exact .inl eq
          · by_cases eq : fragment = w.form.text (update.placeholders.body w.attr).1
            · exact .inl eq
            · exact .inr ⟨⟨new, eq⟩, other⟩

end Update

end ItemStore
