import Mathlib
import ItemStore.Proofs.FirstOccurrences
import ItemStore.Proofs.Update.Effects

/-!
# ItemStore.Proofs.Update.History

The history of a run: all writes that the update makes of its own accord, in order. A payload and
its timestamps make the writes of `Update.writes`, and a lock writes the revision.

A run leaves its history in the expressions (`records_run`): in the bodies, and in each part of the
request that the caller does not write himself. In particular the SET clause is the list of the
assignments in the history, each at its first occurrence, and a value placeholder stands for the
value of the last write.
-/

namespace ItemStore

open Expression (ClauseKind Clauses Form Placeholders joinCondition namePlaceholder
  valuePlaceholder)

/-! ### Assignments -/

/-- What the SET clause says about a write: how an attribute is assigned. -/
structure Assignment where
  form : Form
  attr : String
deriving DecidableEq, Repr

/-- The assignment that a write makes. -/
def Write.assignment (w : Write) : Assignment := ⟨w.form, w.attr⟩

/-- The last value that some writes give to an attribute. -/
def lastValue? (ws : List Write) (attr : String) : Option Value :=
  ((ws.filter fun w => w.attr = attr).getLast?).map Write.value

theorem lastValue?_concat (ws : List Write) (w : Write) (attr : String) :
    lastValue? (ws ++ [w]) attr = if w.attr = attr then some w.value else lastValue? ws attr := by
  unfold lastValue?
  by_cases h : w.attr = attr
  · rw [if_pos h, List.filter_append, List.filter_cons_of_pos (by simpa using h), List.filter_nil,
      List.getLast?_concat, Option.map_some]
  · rw [if_neg h, List.filter_append, List.filter_cons_of_neg (by simpa using h), List.filter_nil,
      List.append_nil]

/-- The attributes that are written have a last value. -/
theorem exists_lastValue?_iff {ws : List Write} {attr : String} :
    (∃ value, lastValue? ws attr = some value) ↔ ∃ w ∈ ws, w.attr = attr := by
  simp [lastValue?, ← Option.isSome_iff_exists]

namespace Expression.Placeholders

variable {registry : Placeholders}

/-- The fragment that makes an assignment. -/
def text (registry : Placeholders) (a : Assignment) : String :=
  a.form.text (registry.body a.attr).1

theorem text_of_find? {a : Assignment} {body : String}
    (h : registry.bodies.find? a.attr = some body) : registry.text a = a.form.text body := by
  rw [text, body_of_find? h]

/-- Fragments stay the same when further names get bodies. -/
theorem text_body {a : Assignment} {body : String}
    (h : registry.bodies.find? a.attr = some body) (name : String) :
    (registry.body name).2.text a = registry.text a := by
  rw [text_of_find? (find?_body_of_find? h name), text_of_find? h]

/-- Assignments that differ have different fragments. -/
theorem Sound.text_injective (h : registry.Sound) {a b : Assignment} {body body' : String}
    (ha : registry.bodies.find? a.attr = some body)
    (hb : registry.bodies.find? b.attr = some body') (eq : registry.text a = registry.text b) :
    a = b := by
  rw [text_of_find? ha, text_of_find? hb] at eq
  obtain ⟨form, rfl⟩ := Form.text_injective (h.isWord ha) (h.isWord hb) eq
  cases a
  cases b
  rw [Assignment.mk.injEq]
  exact ⟨form, h.distinct ha hb⟩

end Expression.Placeholders

namespace Update

variable {update changed : Update}

/-! ### What a write does -/

/-- The write that a lock makes. -/
def lockWrite (revision : Nat) : Write := ⟨.increment, revisionAttr, .ofInt revision⟩

/--
What a write does to the expressions. A lock is a write in the form of an increment. It has a
condition and a value for one besides, and adds its fragment only once.
-/
structure Puts (update : Update) (w : Write) (changed : Update) : Prop where
  /-- The attribute has a body. -/
  placeholders : changed.placeholders = (update.placeholders.body w.attr).2
  /-- The SET clause has the fragment. -/
  clauses : changed.clauses =
    if w.form = .increment ∧ update.locked = true then update.clauses
    else update.clauses.pushUnique .set (w.form.text (update.placeholders.body w.attr).1)
  /-- The name is told. -/
  names : changed.names =
    update.names.insert (namePlaceholder (update.placeholders.body w.attr).1) w.attr
  /-- The value is told. -/
  values : ∀ ph, changed.values.find? ph =
    if w.form = .increment ∧ ph = valuePlaceholder incrementBody then some (.ofInt 1)
    else if ph = valuePlaceholder (update.placeholders.body w.attr).1 then some w.value
    else update.values.find? ph
  /-- A lock joins its check to the condition. -/
  condition : changed.condition =
    if w.form = .increment ∧ update.locked = false then
      some (joinCondition update.condition (Form.plain.text revisionAttr) .and)
    else update.condition
  /-- The update is locked by locks. -/
  locked : changed.locked = true ↔ update.locked = true ∨ w.form = .increment
  /-- Only the revision is incremented. -/
  revision : w.form = .increment → w.attr = revisionAttr

theorem puts_write (update : Update) {w : Write} (h : w.form ≠ .increment) :
    update.Puts w (update.write w) where
  placeholders := rfl
  clauses := by rw [if_neg fun both => h both.1, clauses_write]
  names := rfl
  values ph := by rw [if_neg fun both => h both.1, values_write, NameMap.find?_insert]
  condition := by rw [if_neg fun both => h both.1]; rfl
  locked := ⟨.inl, fun either => either.resolve_right h⟩
  revision increment := absurd increment h

theorem puts_lock (h : update.placeholders.Regular) (revision : Nat) :
    update.Puts (lockWrite revision) (update.lock revision) := by
  have body : (update.placeholders.body (lockWrite revision).attr).1 = revisionAttr :=
    h.body_eq (by decide : Expression.isAlphanumeric revisionAttr = true)
  have increment : (lockWrite revision).form = .increment := rfl
  rw [lock_eq h]
  constructor
  · rfl
  · rw [body]
    cases update.locked <;> simp [increment]
  · rw [body]
    rfl
  · intro ph
    rw [body, NameMap.find?_insert, NameMap.find?_insert]
    simp only [increment, true_and]
    rfl
  · cases update.locked <;> simp [increment]
  · simp [increment]
  · exact fun _ => rfl

/-! ### What the expressions record -/

/--
Whether the expressions of an update record some writes, as far as these are its own: the parts
which callers may write as well are left open.
-/
structure Records (own : Part → Prop) (update : Update) (ws : List Write) : Prop where
  /-- The registry is regular. -/
  regular : update.placeholders.Regular
  /-- Attributes have bodies if they have been written. -/
  body_iff : ∀ {attr}, (∃ body, update.placeholders.bodies.find? attr = some body) ↔
    ∃ w ∈ ws, w.attr = attr
  /-- Only the revision is incremented. -/
  revision : ∀ w ∈ ws, w.form = .increment → w.attr = revisionAttr
  /-- The update is locked if there is an increment. -/
  locked : update.locked = true ↔ ∃ w ∈ ws, w.form = .increment
  /-- The SET clause makes each assignment once, in order of first occurrence. -/
  set : own (.clause .set) →
    update.clauses.set = (ws.map Write.assignment).eraseDups.map update.placeholders.text
  /-- The other clauses have no fragments. -/
  others : ∀ kind, kind ≠ .set → own (.clause kind) → update.clauses.fragments kind = []
  /-- Name placeholders stand for the attributes that have their bodies. -/
  names : own .names → ∀ ph attr, update.names.find? ph = some attr ↔
    ∃ body, update.placeholders.bodies.find? attr = some body ∧ ph = namePlaceholder body
  /-- Value placeholders stand for the last values of these attributes, and one for one. -/
  values : own .values → ∀ ph value, update.values.find? ph = some value ↔
    (∃ attr body, update.placeholders.bodies.find? attr = some body ∧
      ph = valuePlaceholder body ∧ lastValue? ws attr = some value) ∨
    (update.locked = true ∧ ph = valuePlaceholder incrementBody ∧ value = .ofInt 1)
  /-- The condition is the check of the lock. -/
  condition : own .condition →
    update.condition = if update.locked then some (Form.plain.text revisionAttr) else none

variable {own : Part → Prop} {ws : List Write} {w : Write}

/-- An update to which nothing has been added records no writes. -/
theorem Fresh.records (fresh : update.Fresh) : update.Records own [] where
  regular := fresh.placeholders ▸ Placeholders.regular_start
  body_iff {attr} := by
    rw [fresh.placeholders]
    constructor
    · rintro ⟨_, has⟩
      cases has
    · rintro ⟨_, mem, _⟩
      cases mem
  revision _ mem := absurd mem List.not_mem_nil
  locked := by
    rw [fresh.locked]
    constructor
    · intro h
      cases h
    · rintro ⟨_, mem, _⟩
      cases mem
  set _ := by rw [fresh.clauses]; rfl
  others kind _ _ := by rw [fresh.clauses]; cases kind <;> rfl
  names _ ph attr := by
    rw [fresh.names, fresh.placeholders]
    constructor
    · intro h
      cases h
    · rintro ⟨_, has, _⟩
      cases has
  values _ ph value := by
    rw [fresh.values, fresh.placeholders, fresh.locked]
    constructor
    · intro h
      cases h
    · rintro (⟨_, _, has, _⟩ | ⟨locked, _⟩)
      · cases has
      · cases locked
  condition _ := by rw [fresh.condition, fresh.locked]; rfl

/-- The bodies after a write: the written attribute has one, and the others keep theirs. -/
theorem Puts.find?_bodies (puts : update.Puts w changed) (attr : String) :
    changed.placeholders.bodies.find? attr =
      if attr = w.attr then some (update.placeholders.body w.attr).1
      else update.placeholders.bodies.find? attr := by
  rw [puts.placeholders]
  split
  · rename_i eq
    rw [eq, Placeholders.find?_body]
  · rename_i ne
    exact Placeholders.find?_body_of_ne _ ne

/-- The written attribute has a body. -/
theorem Puts.find?_body (puts : update.Puts w changed) :
    changed.placeholders.bodies.find? w.attr = some (update.placeholders.body w.attr).1 := by
  rw [puts.find?_bodies, if_pos rfl]

namespace Records

theorem puts_regular (h : update.Records own ws) (puts : update.Puts w changed) :
    changed.placeholders.Regular := by
  rw [puts.placeholders]
  exact h.regular.body w.attr

theorem puts_body_iff (h : update.Records own ws) (puts : update.Puts w changed) {attr : String} :
    (∃ body, changed.placeholders.bodies.find? attr = some body) ↔
      ∃ other ∈ ws ++ [w], other.attr = attr := by
  simp only [puts.find?_bodies, List.mem_append, List.mem_singleton, or_and_right, exists_or,
    exists_eq_left, ← h.body_iff]
  split
  · rename_i eq
    exact ⟨fun _ => .inr eq.symm, fun _ => ⟨_, rfl⟩⟩
  · rename_i ne
    exact ⟨.inl, fun either => either.resolve_right fun eq => ne eq.symm⟩

theorem puts_set (h : update.Records own ws) (puts : update.Puts w changed)
    (mine : own (.clause .set)) :
    changed.clauses.set =
      ((ws ++ [w]).map Write.assignment).eraseDups.map changed.placeholders.text := by
  have body := puts.find?_body
  have sound := (h.puts_regular puts).sound
  -- The earlier fragments are still those of their assignments.
  have kept : ∀ a ∈ (ws.map Write.assignment).eraseDups,
      update.placeholders.text a = changed.placeholders.text a := by
    intro a mem
    obtain ⟨other, among, rfl⟩ := List.mem_map.1 (List.mem_eraseDups.1 mem)
    obtain ⟨_, has⟩ := h.body_iff.2 ⟨other, among, rfl⟩
    rw [puts.placeholders, Placeholders.text_body has]
  have old : update.clauses.set =
      (ws.map Write.assignment).eraseDups.map changed.placeholders.text := by
    rw [h.set mine, List.map_congr_left kept]
  have new : w.form.text (update.placeholders.body w.attr).1 =
      changed.placeholders.text w.assignment :=
    (Placeholders.text_of_find? (a := w.assignment) body).symm
  -- The fragment is there already just if the assignment has been made before.
  have there : changed.placeholders.text w.assignment ∈ update.clauses.set ↔
      w.assignment ∈ ws.map Write.assignment := by
    rw [old, List.mem_map]
    constructor
    · rintro ⟨a, mem, eq⟩
      obtain ⟨other, among, rfl⟩ := List.mem_map.1 (List.mem_eraseDups.1 mem)
      obtain ⟨_, has⟩ := (h.puts_body_iff puts).2
        ⟨other, List.mem_append_left _ among, rfl⟩
      rw [← sound.text_injective has body eq]
      exact List.mem_map_of_mem among
    · intro mem
      exact ⟨w.assignment, List.mem_eraseDups.2 mem, rfl⟩
  rw [List.map_append, List.map_singleton, eraseDups_concat, List.map_append, ← old, puts.clauses]
  by_cases again : w.form = .increment ∧ update.locked = true
  · -- The first lock has made the assignment.
    obtain ⟨first, among, increment⟩ := h.locked.1 again.2
    have same : first.assignment = w.assignment := by
      rw [Write.assignment, Write.assignment, increment, again.1, h.revision first among increment,
        puts.revision again.1]
    rw [if_pos again, if_pos (same ▸ List.mem_map_of_mem among), List.map_nil, List.append_nil]
  · rw [if_neg again, set_pushUnique, new]
    by_cases mem : w.assignment ∈ ws.map Write.assignment
    · rw [if_pos mem, if_pos (there.2 mem), List.map_nil]
    · rw [if_neg mem, if_neg (mt there.1 mem), List.map_singleton]

theorem puts_names (h : update.Records own ws) (puts : update.Puts w changed)
    (mine : own .names) (ph attr : String) :
    changed.names.find? ph = some attr ↔ ∃ body,
      changed.placeholders.bodies.find? attr = some body ∧ ph = namePlaceholder body := by
  have sound := (h.puts_regular puts).sound
  have own := puts.find?_body
  rw [puts.names, NameMap.find?_insert]
  by_cases written : ph = namePlaceholder (update.placeholders.body w.attr).1
  · rw [if_pos written]
    constructor
    · rintro ⟨⟩
      exact ⟨_, own, written⟩
    · rintro ⟨body, has, eq⟩
      rw [written] at eq
      have same := Expression.Sigil.name.placeholder_injective eq
      rw [same] at own
      rw [sound.distinct own has]
  · rw [if_neg written, h.names mine]
    constructor
    · rintro ⟨body, has, eq⟩
      refine ⟨body, ?_, eq⟩
      rw [puts.placeholders]
      exact Placeholders.find?_body_of_find? has w.attr
    · rintro ⟨body, has, eq⟩
      rw [puts.find?_bodies] at has
      split at has
      · obtain rfl := Option.some.inj has
        exact absurd eq written
      · exact ⟨body, has, eq⟩

/-- The placeholder of the increment has its value from locks only. -/
theorem puts_values_increment (h : update.Records own ws) (puts : update.Puts w changed)
    (mine : own .values) (value : Value) :
    changed.values.find? (valuePlaceholder incrementBody) = some value ↔
      changed.locked = true ∧ value = .ofInt 1 := by
  have new := puts.find?_body
  rw [puts.values, puts.locked]
  by_cases increment : w.form = .increment
  · rw [if_pos ⟨increment, rfl⟩]
    constructor
    · rintro ⟨⟩
      exact ⟨.inr increment, rfl⟩
    · rintro ⟨-, rfl⟩
      rfl
  · rw [if_neg fun both => increment both.1,
      if_neg ((h.puts_regular puts).valuePlaceholder_ne new), h.values mine,
      or_iff_left increment]
    constructor
    · rintro (⟨attr, body, has, eq, -⟩ | ⟨locked, -, one⟩)
      · exact absurd eq (h.regular.valuePlaceholder_ne has)
      · exact ⟨locked, one⟩
    · rintro ⟨locked, one⟩
      exact .inr ⟨locked, rfl, one⟩

/-- The other placeholders stand for the last values. -/
theorem puts_values_of_ne (h : update.Records own ws) (puts : update.Puts w changed)
    (mine : own .values) {ph : String} (ne : ph ≠ valuePlaceholder incrementBody) (value : Value) :
    changed.values.find? ph = some value ↔
      ∃ attr body, changed.placeholders.bodies.find? attr = some body ∧
        ph = valuePlaceholder body ∧ lastValue? (ws ++ [w]) attr = some value := by
  have sound := (h.puts_regular puts).sound
  have new := puts.find?_body
  rw [puts.values, if_neg fun both => ne both.2]
  by_cases written : ph = valuePlaceholder (update.placeholders.body w.attr).1
  · rw [if_pos written]
    constructor
    · intro eq
      exact ⟨w.attr, _, new, written, by rw [lastValue?_concat, if_pos rfl, eq]⟩
    · rintro ⟨attr, body, has, eq, last⟩
      rw [written] at eq
      rw [← Expression.Sigil.value.placeholder_injective eq] at has
      rwa [lastValue?_concat, if_pos (sound.distinct new has)] at last
  · -- Only attributes that were written before can have the placeholder.
    rw [if_neg written, h.values mine, or_iff_left fun all => ne all.2.1]
    constructor
    · rintro ⟨attr, body, has, eq, last⟩
      have kept := Placeholders.find?_body_of_find? has w.attr
      rw [← puts.placeholders] at kept
      have other : w.attr ≠ attr := by
        rintro rfl
        rw [new] at kept
        exact written (eq.trans (congrArg _ (Option.some.inj kept.symm)))
      exact ⟨attr, body, kept, eq, by rw [lastValue?_concat, if_neg other, last]⟩
    · rintro ⟨attr, body, has, eq, last⟩
      rw [puts.find?_bodies] at has
      split at has
      · obtain rfl := Option.some.inj has
        exact absurd eq written
      · rename_i other
        rw [lastValue?_concat, if_neg (Ne.symm other)] at last
        exact ⟨attr, body, has, eq, last⟩

theorem puts_values (h : update.Records own ws) (puts : update.Puts w changed)
    (mine : own .values) (ph : String) (value : Value) :
    changed.values.find? ph = some value ↔
      (∃ attr body, changed.placeholders.bodies.find? attr = some body ∧
        ph = valuePlaceholder body ∧ lastValue? (ws ++ [w]) attr = some value) ∨
      (changed.locked = true ∧ ph = valuePlaceholder incrementBody ∧ value = .ofInt 1) := by
  by_cases one : ph = valuePlaceholder incrementBody
  · subst one
    rw [h.puts_values_increment puts mine, or_iff_right, and_iff_right rfl]
    rintro ⟨attr, body, has, eq, -⟩
    exact (h.puts_regular puts).valuePlaceholder_ne has eq
  · rw [h.puts_values_of_ne puts mine one, or_iff_left fun all => one all.2.1]

/-- Writes are recorded. -/
theorem puts (h : update.Records own ws) (puts : update.Puts w changed) :
    changed.Records own (ws ++ [w]) where
  regular := h.puts_regular puts
  body_iff := h.puts_body_iff puts
  revision other mem increment := by
    rcases List.mem_append.1 mem with mem | mem
    · exact h.revision other mem increment
    · obtain rfl := List.mem_singleton.1 mem
      exact puts.revision increment
  locked := by
    rw [puts.locked, h.locked]
    simp only [List.mem_append, List.mem_singleton, or_and_right, exists_or, exists_eq_left]
  set := h.puts_set puts
  others kind ne mine := by
    rw [puts.clauses, ← h.others kind ne mine]
    split
    · rfl
    · exact fragments_pushUnique_of_ne ne
  names := h.puts_names puts
  values := h.puts_values puts
  condition mine := by
    have before := h.condition mine
    have locked := puts.locked
    rw [puts.condition]
    -- The first lock joins its check, and the others find it there.
    cases was : update.locked with
    | true =>
        rw [was, if_pos rfl] at before
        rw [if_neg (by simp), before, if_pos (locked.2 (.inl was))]
    | false =>
        rw [was, if_neg (by simp)] at before
        by_cases increment : w.form = .increment
        · rw [if_pos ⟨increment, rfl⟩, if_pos (locked.2 (.inr increment)), before]
          rfl
        · rw [if_neg fun both => increment both.1, before, if_neg fun is => ?_]
          rcases locked.1 is with is | is
          · rw [was] at is
            cases is
          · exact increment is

/-- Nothing is recorded where the registry, the lock and the own parts stay as they are. -/
theorem same (h : update.Records own ws)
    (placeholders : changed.placeholders = update.placeholders)
    (locked : changed.locked = update.locked)
    (clauses : ∀ kind, own (.clause kind) →
      changed.clauses.fragments kind = update.clauses.fragments kind)
    (names : own .names → changed.names = update.names)
    (values : own .values → changed.values = update.values)
    (condition : own .condition → changed.condition = update.condition) :
    changed.Records own ws where
  regular := placeholders ▸ h.regular
  body_iff := placeholders ▸ h.body_iff
  revision := h.revision
  locked := locked ▸ h.locked
  set mine := by
    rw [placeholders, ← h.set mine]
    exact clauses .set mine
  others kind ne mine := by rw [clauses kind mine, h.others kind ne mine]
  names mine := by
    rw [placeholders, names mine]
    exact h.names mine
  values mine := by
    rw [placeholders, locked, values mine]
    exact h.values mine
  condition mine := by rw [condition mine, locked, h.condition mine]

theorem foldl_write (h : update.Records own ws) {more : List Write}
    (plain : ∀ w ∈ more, w.form ≠ .increment) :
    (more.foldl write update).Records own (ws ++ more) := by
  induction more generalizing update ws with
  | nil => rwa [List.append_nil]
  | cons w more ih =>
      have next := ih (h.puts (puts_write update (plain w List.mem_cons_self)))
        fun other mem => plain other (List.mem_cons_of_mem _ mem)
      rwa [List.append_assoc, List.singleton_append] at next

end Records

/-! ### Runs -/

/-- The writes that an effect makes. -/
def Effect.writes (world : World) (update : Update) : Effect → List Write
  | .lock revision => [lockWrite revision]
  | .merge payload => update.writes world.clock payload
  | _ => []

/-- The writes that a run makes. -/
def history : Update → List (World × Call) → List Write
  | _, [] => []
  | update, call :: rest =>
      call.2.effect.writes call.1 update ++ (update.step call.1 call.2).2.history rest

theorem history_append (update : Update) (calls others : List (World × Call)) :
    update.history (calls ++ others) =
      update.history calls ++ (update.run calls).2.history others := by
  induction calls generalizing update with
  | nil => rfl
  | cons call rest ih => rw [List.cons_append, history, history, ih, List.append_assoc]; rfl

/-- Each write of a run is made by a call of it, in the state that the calls before lead to. -/
theorem mem_history_iff {calls : List (World × Call)} {w : Write} :
    w ∈ update.history calls ↔ ∃ before call after, calls = before ++ call :: after ∧
      w ∈ call.2.effect.writes call.1 (update.run before).2 := by
  constructor
  · intro mem
    induction calls generalizing update with
    | nil => cases mem
    | cons call rest ih =>
        rcases List.mem_append.1 mem with own | later
        · exact ⟨[], call, rest, rfl, own⟩
        · obtain ⟨before, other, after, rfl, made⟩ := ih later
          exact ⟨call :: before, other, after, rfl, made⟩
  · rintro ⟨before, call, after, rfl, made⟩
    rw [history_append, history]
    exact List.mem_append_right _ (List.mem_append_left _ made)

/-- Only locks and payloads make writes. -/
theorem mem_effect_writes {world : World} {effect : Effect} {w : Write}
    (mem : w ∈ effect.writes world update) :
    (∃ revision, effect = .lock revision ∧ w = lockWrite revision) ∨
      ∃ payload, effect = .merge payload ∧ w ∈ update.writes world.clock payload := by
  cases effect with
  | lock revision => exact .inl ⟨revision, rfl, List.mem_singleton.1 mem⟩
  | merge payload => exact .inr ⟨payload, rfl, mem⟩
  | _ => cases mem

/-- What a call does is recorded, unless it writes a part that is not left open. -/
theorem Records.does {world : World} {effect : Effect} (h : update.Records own ws)
    (does : update.Does world effect changed)
    (leaves : ∀ part, effect.part? = some part → ¬own part) :
    changed.Records own (ws ++ effect.writes world update) := by
  cases effect with
  | lock revision =>
      obtain rfl := does
      exact h.puts (puts_lock h.regular revision)
  | merge payload =>
      obtain rfl := does
      rw [merge_eq]
      exact (h.foldl_write fun _ => form_ne_increment_of_mem_writes).same rfl rfl
        (fun _ _ => rfl) (fun _ => rfl) (fun _ => rfl) (fun _ => rfl)
  | _ =>
      -- The other effects make no writes, and change open parts only.
      have kept := does.leaves rfl
      change Records own _ (ws ++ [])
      rw [List.append_nil]
      exact h.same kept.placeholders kept.locked
        (fun kind mine => kept.clauses kind fun eq => leaves _ eq mine)
        (fun mine => kept.names fun eq => leaves _ eq mine)
        (fun mine => kept.values fun eq => leaves _ eq mine)
        (fun mine => kept.condition fun eq => leaves _ eq mine)

/-- The expressions record the history of a run, but for the parts that its calls write. -/
theorem records_run {calls : List (World × Call)} (h : update.Records own ws)
    (leaves : ∀ call ∈ calls, ∀ part, call.2.part? = some part → ¬own part) :
    (update.run calls).2.Records own (ws ++ update.history calls) := by
  induction calls generalizing update ws with
  | nil => rwa [history, List.append_nil]
  | cons call rest ih =>
      have next := h.does (step_does call.1 update call.2) fun part of =>
        leaves call List.mem_cons_self part (Call.part?_of_effect of)
      have all := ih next fun other mem => leaves other (List.mem_cons_of_mem _ mem)
      rwa [List.append_assoc] at all

/-! ### What the SET clause assigns -/

namespace Records

/-- The fragment of a recorded write assigns its attribute. -/
theorem assigned?_text (h : update.Records own ws) (mine : own .names) (mem : w ∈ ws) :
    Expression.assigned? update.names (update.placeholders.text w.assignment) = some w.attr := by
  obtain ⟨body, has⟩ := h.body_iff.2 ⟨w, mem, rfl⟩
  have text : update.placeholders.text w.assignment = w.form.text body :=
    Placeholders.text_of_find? has
  rw [text, Expression.assigned?_text _ _ (h.regular.sound.isWord has), h.names mine]
  exact ⟨body, has, rfl⟩

/-- The SET clause assigns the attributes of the assignments. -/
theorem filterMap_assigned?_set (h : update.Records own ws) (mine : own (.clause .set))
    (mineNames : own .names) :
    update.clauses.set.filterMap (Expression.assigned? update.names) =
      (ws.map Write.assignment).eraseDups.map Assignment.attr := by
  rw [h.set mine, List.filterMap_map, ← List.filterMap_eq_map (f := Assignment.attr)]
  refine List.filterMap_congr fun a mem => ?_
  obtain ⟨w, among, rfl⟩ := List.mem_map.1 (List.mem_eraseDups.1 mem)
  rw [Function.comp_apply, h.assigned?_text mineNames among]
  rfl

/-- The fragments that assign an attribute are those of its assignments. -/
theorem filter_assigned?_set (h : update.Records own ws) (mine : own (.clause .set))
    (mineNames : own .names) (attr : String) :
    (update.clauses.set.filter fun fragment =>
      Expression.assigned? update.names fragment = some attr) =
      ((ws.map Write.assignment).eraseDups.filter fun a => a.attr = attr).map
        update.placeholders.text := by
  rw [h.set mine, List.filter_map]
  refine congrArg (List.map _) (List.filter_congr fun a mem => ?_)
  obtain ⟨w, among, rfl⟩ := List.mem_map.1 (List.mem_eraseDups.1 mem)
  rw [Function.comp_apply, h.assigned?_text mineNames among]
  simp only [Option.some.injEq]
  rfl

end Records

end Update

end ItemStore
