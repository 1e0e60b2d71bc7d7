import Mathlib
import ItemStore.Proofs.Runs
import ItemStore.Proofs.Update.History

/-!
# ItemStore.Proofs.Update.Revision

The lock owns the revision: its check, its increment, and what their placeholders stand for.

Payloads may have attributes of any names, and all of them get placeholders. But the body `rev`
belongs to the revision and `_addOne` to no attribute, and a locked update takes no revision from a
payload. So nothing but a further lock changes what a lock has written (`HoldsLock.does`), unless
the caller writes it himself.
-/

namespace ItemStore.Update

open Expression (ClauseKind Form IsWord Placeholders leftSide leftSide_text namePlaceholder
  valuePlaceholder)

variable {update changed : Update} {world : World} {last : Option Nat}

/-! ### What a lock writes -/

/-- The fragment by which a lock lets the revision grow. -/
def lockIncrement : String := "#rev = #rev + :_addOne"

/-- The revision that an effect locks the update on. -/
def Effect.revision? : Effect → Option Nat
  | .lock revision => some revision
  | _ => none

/-- The revision of the last lock. -/
def lastRevision? (calls : List (World × Call)) : Option Nat :=
  (calls.filterMap fun call => call.2.effect.revision?).getLast?

/-- Whether an effect writes nothing that a lock writes. -/
def Effect.sparesLock : Effect → Bool
  | .names pairs => !(pairs.map Prod.fst).contains "#rev"
  | .values pairs =>
      !(pairs.map Prod.fst).contains ":rev" && !(pairs.map Prod.fst).contains ":_addOne"
  | .fragments .set texts => !texts.contains lockIncrement
  | _ => true

/-- Whether an update holds what its last lock has written, if it is locked. -/
structure HoldsLock (last : Option Nat) (update : Update) : Prop where
  regular : update.placeholders.Regular
  locked : update.locked = last.isSome
  /-- Only the first lock adds the fragment. -/
  increment : update.clauses.set.count lockIncrement = if last.isSome then 1 else 0
  body : last.isSome → update.placeholders.bodies.find? revisionAttr = some revisionAttr
  name : last.isSome → update.names.find? "#rev" = some revisionAttr
  value : ∀ revision, last = some revision → update.values.find? ":rev" = some (.ofInt revision)
  one : last.isSome → update.values.find? ":_addOne" = some (.ofInt 1)

theorem lastRevision?_cons (call : World × Call) (rest : List (World × Call)) :
    lastRevision? (call :: rest) = (lastRevision? rest).or call.2.effect.revision? :=
  getLast?_filterMap_cons _ call rest

theorem lockIncrement_eq : lockIncrement = Form.increment.text revisionAttr := by decide

theorem Fresh.holdsLock (fresh : update.Fresh) : update.HoldsLock none where
  regular := fresh.placeholders ▸ Placeholders.regular_start
  locked := fresh.locked
  increment := by rw [fresh.clauses]; rfl
  body := by simp
  name := by simp
  value := by simp
  one := by simp

namespace HoldsLock

/-! ### Payloads -/

/-- Fragments of other forms are no increments. -/
theorem text_ne_lockIncrement {form : Form} (ne : form ≠ .increment) {body : String}
    (word : IsWord body) : form.text body ≠ lockIncrement := by
  intro eq
  rw [lockIncrement_eq] at eq
  exact ne (Form.text_injective word (List.all_eq_true.1 rfl) eq).1

theorem write (h : update.HoldsLock last) {w : Write} (form : w.form ≠ .increment)
    (attr : last.isSome → w.attr ≠ revisionAttr) : (update.write w).HoldsLock last := by
  have regular := regular_write h.regular w
  have own : (update.write w).placeholders.bodies.find? w.attr = _ :=
    Placeholders.find?_body update.placeholders w.attr
  have kept : last.isSome →
      (update.write w).placeholders.bodies.find? revisionAttr = some revisionAttr :=
    fun locked => Placeholders.find?_body_of_find? (h.body locked) w.attr
  -- The revision has the body already, so the written attribute has another one.
  have ne : last.isSome → revisionAttr ≠ (update.placeholders.body w.attr).1 := by
    intro locked eq
    rw [← eq] at own
    exact attr locked (regular.sound.distinct own (kept locked))
  refine ⟨regular, h.locked, ?_, kept, ?_, ?_, ?_⟩
  · have other := text_ne_lockIncrement form (regular.sound.isWord own)
    rw [clauses_write, set_pushUnique, List.count_append, h.increment]
    by_cases mem : w.form.text (update.placeholders.body w.attr).1 ∈ update.clauses.set
    · simp [mem]
    · simp [mem, other]
  · intro locked
    have other : "#rev" ≠ namePlaceholder (update.placeholders.body w.attr).1 :=
      fun eq => ne locked (Expression.Sigil.name.placeholder_injective eq)
    rw [names_write, NameMap.find?_insert, if_neg other, h.name locked]
  · intro revision is
    have other : ":rev" ≠ valuePlaceholder (update.placeholders.body w.attr).1 :=
      fun eq => ne (by rw [is]; rfl) (Expression.Sigil.value.placeholder_injective eq)
    rw [values_write, NameMap.find?_insert, if_neg other, h.value revision is]
  · intro locked
    have other : ":_addOne" ≠ valuePlaceholder (update.placeholders.body w.attr).1 :=
      regular.valuePlaceholder_ne own
    rw [values_write, NameMap.find?_insert, if_neg other, h.one locked]

theorem merge (h : update.HoldsLock last) (clock : Clock) (payload : Payload) :
    (update.merge clock payload).HoldsLock last := by
  have all : ((update.writes clock payload).foldl Update.write update).HoldsLock last := by
    refine foldl_write_induction (P := HoldsLock last) (fun changed w mem kept => ?_) h
    refine kept.write (form_ne_increment_of_mem_writes mem) fun locked => ?_
    exact attr_ne_revision_of_mem_writes (h.locked.trans locked) mem
  rw [merge_eq]
  exact ⟨all.regular, all.locked, all.increment, all.body, all.name, all.value, all.one⟩

/-! ### Locks -/

theorem lock (h : update.HoldsLock last) (revision : Nat) :
    (update.lock revision).HoldsLock (some revision) := by
  have ne : ":rev" ≠ valuePlaceholder incrementBody := by decide
  have body : (update.placeholders.body revisionAttr).2.bodies.find? revisionAttr =
      some revisionAttr := by
    rw [Placeholders.find?_body, h.regular.body_eq (by decide)]
  rw [lock_eq h.regular]
  refine ⟨h.regular.body revisionAttr, rfl, ?_, fun _ => body, fun _ => ?_, ?_, fun _ => ?_⟩
  · have before := h.increment
    cases locked : update.locked with
    | true => simpa [← h.locked, locked] using before
    | false =>
        simp only [← h.locked, locked] at before
        have absent : Form.increment.text revisionAttr ∉ update.clauses.set := by
          rw [← lockIncrement_eq, ← List.count_eq_zero]
          exact before
        simp only [Bool.false_eq_true, if_false]
        rw [set_pushUnique, if_neg absent, ← lockIncrement_eq, List.count_append, before]
        simp
  · exact NameMap.find?_insert_self _ _ _
  · rintro _ ⟨⟩
    show (NameMap.insert _ _ _).find? ":rev" = _
    rw [NameMap.find?_insert, if_neg ne]
    exact NameMap.find?_insert_self _ _ _
  · exact NameMap.find?_insert_self _ _ _

/-! ### Other effects -/

theorem leaves {part : Option Part} (h : update.HoldsLock last)
    (leaves : Leaves part update changed)
    (increment : changed.clauses.set.count lockIncrement = update.clauses.set.count lockIncrement)
    (name : changed.names.find? "#rev" = update.names.find? "#rev")
    (value : changed.values.find? ":rev" = update.values.find? ":rev")
    (one : changed.values.find? ":_addOne" = update.values.find? ":_addOne") :
    changed.HoldsLock last where
  regular := leaves.placeholders ▸ h.regular
  locked := leaves.locked.trans h.locked
  increment := increment.trans h.increment
  body locked := leaves.placeholders ▸ h.body locked
  name locked := name.trans (h.name locked)
  value revision is := value.trans (h.value revision is)
  one locked := one.trans (h.one locked)

theorem count_addFragments {kind : ClauseKind} {texts : List String}
    (spares : (Effect.fragments kind texts).sparesLock = true) :
    (update.addFragments kind texts).clauses.set.count lockIncrement =
      update.clauses.set.count lockIncrement := by
  by_cases set : kind = .set
  · subst set
    have absent : lockIncrement ∉ texts := by simpa [Effect.sparesLock] using spares
    have set := fragments_addFragments update .set texts
    simp only [Expression.Clauses.fragments] at set
    rw [set, List.count_append, List.count_eq_zero.2 fun mem => absent (List.mem_filter.1 mem).1]
    rfl
  · have other : some (Part.clause kind) ≠ some (.clause .set) := by simpa using set
    have kept := (leaves_addFragments update kind texts).clauses .set other
    simp only [Expression.Clauses.fragments] at kept
    rw [kept]

theorem does {effect : Effect} (h : update.HoldsLock last)
    (does : update.Does world effect changed) (spares : effect.sparesLock = true) :
    changed.HoldsLock (effect.revision?.or last) := by
  cases effect with
  | nothing =>
      refine h.leaves (does.leaves rfl) ?_ ?_ ?_ ?_
      · rw [does.clauses]
      · rw [does.names]
      · rw [does.values]
      · rw [does.values]
  | lock revision =>
      obtain rfl := does
      exact h.lock revision
  | merge payload =>
      obtain rfl := does
      exact h.merge world.clock payload
  | fragments kind texts =>
      have names := (does.leaves rfl).names (by simp [Effect.part?])
      have values := (does.leaves rfl).values (by simp [Effect.part?])
      refine h.leaves (does.leaves rfl) ?_ ?_ ?_ ?_
      · obtain rfl := does
        exact count_addFragments spares
      · rw [names]
      · rw [values]
      · rw [values]
  | names pairs =>
      have free : "#rev" ∉ pairs.map Prod.fst := by simpa [Effect.sparesLock] using spares
      have kept := does.leaves rfl
      obtain rfl := does
      refine h.leaves kept rfl ?_ rfl rfl
      exact NameMap.find?_insertAll_of_not_mem free update.names
  | values pairs =>
      have free : ":rev" ∉ pairs.map Prod.fst ∧ ":_addOne" ∉ pairs.map Prod.fst := by
        simpa [Effect.sparesLock] using spares
      have kept := does.leaves rfl
      obtain rfl := does
      refine h.leaves kept rfl rfl ?_ ?_
      · exact NameMap.find?_insertAll_of_not_mem free.1 update.values
      · exact NameMap.find?_insertAll_of_not_mem free.2 update.values
  | join expression connective =>
      have kept := does.leaves rfl
      obtain rfl := does
      exact h.leaves kept rfl rfl rfl rfl

/-! ### Runs -/

theorem run {calls : List (World × Call)} (h : update.HoldsLock last)
    (spares : ∀ call ∈ calls, call.2.effect.sparesLock = true) :
    (update.run calls).2.HoldsLock ((lastRevision? calls).or last) := by
  induction calls generalizing update last with
  | nil => exact h
  | cons call rest ih =>
      have first := h.does (step_does call.1 update call.2) (spares call List.mem_cons_self)
      have all := ih first fun call mem => spares call (List.mem_cons_of_mem _ mem)
      rw [lastRevision?_cons, Option.or_assoc]
      exact all

/-- A locked update adds no fragments on the revision of its own accord. -/
theorem exists_added {revision : Nat} {effect : Effect} (h : update.HoldsLock (some revision))
    (does : update.Does world effect changed) (part : effect.part? ≠ some (.clause .set)) :
    ∃ added, changed.clauses.set = update.clauses.set ++ added ∧
      ∀ fragment ∈ added, leftSide fragment ≠ "#rev" := by
  have locked : update.locked = true := h.locked
  have same (eq : changed.clauses.set = update.clauses.set) :
      ∃ added, changed.clauses.set = update.clauses.set ++ added ∧
        ∀ fragment ∈ added, leftSide fragment ≠ "#rev" :=
    ⟨[], by simp [eq]⟩
  cases effect with
  | lock revision =>
      obtain rfl := does
      apply same
      rw [lock_eq h.regular]
      simp only [locked, if_true]
  | merge payload =>
      obtain rfl := does
      rw [merge_eq]
      obtain ⟨added, eq, spec⟩ := set_foldl_write (update.writes world.clock payload) update
      refine ⟨added, eq, fun fragment mem => ?_⟩
      obtain ⟨-, w, written, body, has, rfl⟩ := (spec fragment).1 mem
      have sound := (regular_foldl_write h.regular (update.writes world.clock payload)).sound
      intro left
      rw [leftSide_text _ (sound.isWord has)] at left
      -- The fragment would be on the body of the revision, but is on another attribute.
      have body : body = revisionAttr := Expression.Sigil.name.placeholder_injective left
      have kept := find?_foldl_write (h.body rfl) (update.writes world.clock payload)
      rw [body] at has
      exact attr_ne_revision_of_mem_writes locked written (sound.distinct has kept)
  | _ => exact same ((does.leaves rfl).clauses .set part)

end HoldsLock

/-! ### Requests of a locked update -/

/-- Whether a request checks and increments a revision, by fragments of the SET clause. -/
structure LocksOn (request : UpdateRequest) (clauses : Expression.Clauses) (revision : Nat) :
    Prop where
  text : request.update = clauses.expression?
  increment : clauses.set.count lockIncrement = 1
  name : request.names.find? "#rev" = some "rev"
  value : request.values.find? ":rev" = some (.number (toString revision))
  one : request.values.find? ":_addOne" = some (.number "1")

/--
If the caller does not write himself what a lock writes, then every request that is built behind a
lock has the increment once, and placeholders that stand for the revision of the last lock; and
nothing that the update adds to the SET clause of its own accord is on the revision.
-/
theorem locksOn_of_built {settings : Settings} {table : String} {key : List (String × Value)}
    (started : start settings table key = .ok update) {calls : List (World × Call)}
    (spares : ∀ call ∈ calls, call.2.effect.sparesLock = true) {revision : Nat}
    (locks : lastRevision? calls = some revision) :
    (∀ world call request, ((update.run calls).2.step world call).1.built? = some request →
      LocksOn request (update.run calls).2.clauses revision) ∧
    ∀ world call, call.part? ≠ some (.clause .set) →
      ∃ added, ((update.run calls).2.step world call).2.clauses.set =
          (update.run calls).2.clauses.set ++ added ∧
        ∀ fragment ∈ added, leftSide fragment ≠ "#rev" := by
  have holds : (update.run calls).2.HoldsLock (some revision) := by
    have all := (fresh_of_start started).holdsLock.run spares
    rwa [locks, Option.some_or] at all
  constructor
  · intro world call request built
    obtain rfl := eq_request_of_built? built
    exact ⟨rfl, holds.increment, holds.name rfl, holds.value revision rfl, holds.one rfl⟩
  · intro world call part
    refine holds.exists_added (step_does world _ call) fun own => part ?_
    exact Call.part?_of_effect own

/-- Locks between payloads whose attributes are named like what a lock writes. -/
def namesakeCalls : List (World × Call) :=
  [(default, .merge [("rev", .text "x"), ("_addOne", .null), ("rev_1", .null)]),
    (default, .lock (some 3)), (default, .fragment .set "#rev = :other"),
    (default, .merge [("rev", .text "y"), ("_addOne_1", .null), ("#rev", .null)]),
    (default, .lock (some 4)), (default, .values [(":rev_1", .text "z")])]

/-- Payloads with attributes of such names change nothing that a lock writes. -/
theorem locksOn_of_namesakes :
    ∃ update, start {} "t" [("id", .text "1")] = .ok update ∧
      (∀ call ∈ namesakeCalls, call.2.effect.sparesLock = true) ∧
      lastRevision? namesakeCalls = some 4 ∧
      LocksOn (update.run namesakeCalls).2.request (update.run namesakeCalls).2.clauses 4 := by
  have started : start {} "t" [("id", .text "1")] = .ok _ := rfl
  have spares : ∀ call ∈ namesakeCalls, call.2.effect.sparesLock = true := by decide +kernel
  have locks : lastRevision? namesakeCalls = some 4 := by decide +kernel
  have requests := (locksOn_of_built started spares locks).1
  exact ⟨_, started, spares, locks, requests default .request _ rfl⟩

end ItemStore.Update
