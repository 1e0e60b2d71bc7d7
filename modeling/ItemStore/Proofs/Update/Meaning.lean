import Mathlib
import ItemStore.Proofs.Update.History

/-!
# ItemStore.Proofs.Update.Meaning

What payloads mean: which attributes an update assigns, and which values it gives them.

Payloads contribute values to attributes, at the moment they are taken: the key counts, and the
marks. Timestamps and the revision are also written by the update itself, so nothing is said about
them here. For every other attribute the contributions are all there is in the history
(`filter_history`). So the attribute is assigned once, at the place of its first contribution, and
gets the value of the last one (`lastValue?_history`).
-/

namespace ItemStore.Update

open Expression (Clauses Form Placeholders assigned? namePlaceholder valuePlaceholder)

variable {update : Update}

/-! ### Contributions -/

/-- The payload of a call, which is empty if the call takes none. -/
def Call.payload : Call → Payload
  | .merge payload => payload
  | .mergeDocument document =>
      match Payload.ofDocument document with
      | .ok payload => payload
      | .error _ => []
  | _ => []

/--
What a payload contributes: the values of the attributes that have a name and are not in the key,
with null for the empty values of marked attributes.
-/
def contributed (update : Update) (payload : Payload) : List (String × Value) :=
  (payload.filter fun entry => !entry.1.isEmpty && !update.key.contains entry.1).map fun entry =>
    (entry.1, update.storedValue entry.1 entry.2)

/-- What the payloads of a run contribute, in order. -/
def contributions : Update → List (World × Call) → List (String × Value)
  | _, [] => []
  | update, call :: rest =>
      update.contributed call.2.payload ++ (update.step call.1 call.2).2.contributions rest

/-- The last contribution to an attribute. -/
def lastContribution? (contributions : List (String × Value)) (attr : String) : Option Value :=
  ((contributions.filter fun c => c.1 = attr).getLast?).map Prod.snd

/-- Whether an attribute is written by payloads only: no timestamp, and not the revision. -/
def isOrdinary (attr : String) : Bool :=
  attr ≠ Audit.created.attr && attr ≠ Audit.updated.attr && attr ≠ revisionAttr

/-- The write that a contribution makes. -/
def contributionWrite (c : String × Value) : Write := ⟨.plain, c.1, c.2⟩

theorem not_isOrdinary_audit (audit : Audit) : isOrdinary audit.attr = false := by
  cases audit <;> decide

theorem admits_of_ne_revision {attr : String} (ne : attr ≠ revisionAttr) :
    update.admits attr = (!attr.isEmpty && !update.key.contains attr) := by
  rw [admits, beq_false_of_ne ne, Bool.and_false, Bool.not_false, Bool.and_true]

/-- The entries of a payload write what it contributes, but for the revision. -/
theorem filter_entryWrites {among : String → Bool} (spares : among revisionAttr = false)
    (update : Update) (payload : Payload) :
    (update.entryWrites payload).filter (fun w => among w.attr) =
      ((update.contributed payload).filter fun c => among c.1).map contributionWrite := by
  induction payload with
  | nil => rfl
  | cons entry rest ih =>
      unfold entryWrites contributed at ih ⊢
      by_cases counts : among entry.1 = true
      · have ne : entry.1 ≠ revisionAttr := by
          intro eq
          rw [eq, spares] at counts
          cases counts
        have admits : update.admits entry.1 = _ := admits_of_ne_revision ne
        by_cases taken : update.admits entry.1 = true
        · rw [List.filterMap_cons_some (show update.entryWrite? entry = some _ from if_pos taken),
            List.filter_cons_of_pos (by exact counts), ih,
            List.filter_cons_of_pos (admits ▸ taken), List.map_cons,
            List.filter_cons_of_pos (by exact counts)]
          rfl
        · rw [List.filterMap_cons_none (show update.entryWrite? entry = none from if_neg taken), ih,
            List.filter_cons_of_neg (admits ▸ taken)]
      · -- Whatever the entry writes is left out on both sides.
        have written : (((entry :: rest).filterMap update.entryWrite?).filter
            fun w => among w.attr) =
              (rest.filterMap update.entryWrite?).filter fun w => among w.attr := by
          by_cases taken : update.admits entry.1 = true
          · rw [List.filterMap_cons_some (show update.entryWrite? entry = some _ from if_pos taken),
              List.filter_cons_of_neg (by exact counts)]
          · rw [List.filterMap_cons_none (show update.entryWrite? entry = none from if_neg taken)]
        rw [written, ih, List.filter_cons]
        split
        · rw [List.map_cons, List.filter_cons_of_neg (by exact counts)]
        · rfl

/-- Timestamps and locks write no ordinary attributes. -/
theorem filter_writes (update : Update) (clock : Clock) (payload : Payload) :
    (update.writes clock payload).filter (fun w => isOrdinary w.attr) =
      ((update.contributed payload).filter fun c => isOrdinary c.1).map contributionWrite := by
  have stamps : ∀ audit, (update.stampWrite? clock payload audit).toList.filter
      (fun w => isOrdinary w.attr) = [] := by
    intro audit
    refine List.filter_eq_nil_iff.2 fun w mem => ?_
    obtain ⟨-, rfl⟩ := mem_stampWrite?_iff.1 (Option.mem_toList.1 mem)
    rw [not_isOrdinary_audit]
    decide
  rw [writes, List.filter_append, List.filter_append, stamps, stamps, List.append_nil,
    List.append_nil, filter_entryWrites rfl]

theorem filter_effect_writes (world : World) (update : Update) (call : Call) :
    (call.effect.writes world update).filter (fun w => isOrdinary w.attr) =
      ((update.contributed call.payload).filter fun c => isOrdinary c.1).map contributionWrite := by
  cases call with
  | merge payload => exact filter_writes update world.clock payload
  | mergeDocument document =>
      rw [Call.effect, Call.payload]
      cases Payload.ofDocument document with
      | ok payload => exact filter_writes update world.clock payload
      | error refusal => rfl
  | lock revision => cases revision <;> rfl
  | condition expression connective =>
      rw [Call.effect]
      split <;> rfl
  | _ => rfl

/-- Of ordinary attributes the history has the contributions, and no other writes. -/
theorem filter_history (update : Update) (calls : List (World × Call)) :
    (update.history calls).filter (fun w => isOrdinary w.attr) =
      ((update.contributions calls).filter fun c => isOrdinary c.1).map contributionWrite := by
  induction calls generalizing update with
  | nil => rfl
  | cons call rest ih =>
      rw [history, contributions, List.filter_append, List.filter_append, List.map_append, ih,
        filter_effect_writes]

/-! ### What the contributions come to -/

/-- The assignments of ordinary attributes, in the order of their first contributions. -/
theorem filter_assignments (update : Update) (calls : List (World × Call)) :
    ((update.history calls).map Write.assignment).eraseDups.filter (fun a => isOrdinary a.attr) =
      (((update.contributions calls).map Prod.fst).filter isOrdinary).eraseDups.map
        (Assignment.mk .plain) := by
  have injective : Function.Injective (Assignment.mk .plain) := fun a b eq =>
    (Assignment.mk.inj eq).2
  rw [filter_eraseDups, List.filter_map]
  have writes := filter_history update calls
  have ordinary : ((fun a : Assignment => isOrdinary a.attr) ∘ Write.assignment) =
      fun w => isOrdinary w.attr := rfl
  rw [ordinary, writes, map_eraseDups injective, List.filter_map, List.map_map, List.map_map]
  rfl

/-- What is said about one ordinary attribute is said about ordinary attributes. -/
theorem filter_of_isOrdinary {α : Type} (name : α → String) {attr : String}
    (ordinary : isOrdinary attr = true) (l : List α) :
    (l.filter fun a => isOrdinary (name a)).filter (fun a => name a = attr) =
      l.filter fun a => name a = attr := by
  rw [List.filter_filter]
  refine List.filter_congr fun a _ => ?_
  by_cases eq : name a = attr
  · rw [eq, ordinary, Bool.and_true]
  · rw [decide_eq_false eq, Bool.false_and]

/-- An ordinary attribute is assigned once if it has a contribution, and else never. -/
theorem filter_assignments_attr (update : Update) (calls : List (World × Call)) {attr : String}
    (ordinary : isOrdinary attr = true) :
    ((update.history calls).map Write.assignment).eraseDups.filter (fun a => a.attr = attr) =
      if attr ∈ (update.contributions calls).map Prod.fst then [⟨.plain, attr⟩] else [] := by
  rw [← filter_of_isOrdinary Assignment.attr ordinary, filter_assignments, List.filter_map]
  change (List.filter (fun name => decide (name = attr)) _).map _ = _
  rw [List.filter_eq]
  have mem_iff : attr ∈ (((update.contributions calls).map Prod.fst).filter isOrdinary).eraseDups ↔
      attr ∈ (update.contributions calls).map Prod.fst := by
    rw [List.mem_eraseDups, List.mem_filter, and_iff_left ordinary]
  split
  · rename_i mem
    rw [List.count_eq_one_of_mem (nodup_eraseDups _) (mem_iff.2 mem), List.replicate_one,
      List.map_singleton]
  · rename_i absent
    rw [List.count_eq_zero_of_not_mem (mt mem_iff.1 absent), List.replicate_zero, List.map_nil]

/-- The last value of an ordinary attribute is the last contribution to it. -/
theorem lastValue?_history (update : Update) (calls : List (World × Call)) {attr : String}
    (ordinary : isOrdinary attr = true) :
    lastValue? (update.history calls) attr =
      lastContribution? (update.contributions calls) attr := by
  have only : (update.history calls).filter (fun w => w.attr = attr) =
      ((update.contributions calls).filter fun c => c.1 = attr).map contributionWrite := by
    rw [← filter_of_isOrdinary Write.attr ordinary, filter_history, List.filter_map,
      ← filter_of_isOrdinary Prod.fst ordinary]
    rfl
  rw [lastValue?, only, List.getLast?_map, Option.map_map, lastContribution?]
  rfl

theorem lastContribution?_eq_none_iff {contributions : List (String × Value)} {attr : String} :
    lastContribution? contributions attr = none ↔ attr ∉ contributions.map Prod.fst := by
  rw [lastContribution?, Option.map_eq_none_iff, List.getLast?_eq_none_iff,
    List.filter_eq_nil_iff, List.mem_map]
  simp only [decide_eq_true_eq, not_exists, not_and]

/-! ### Runs -/

/-- Whether an update expression, and what its placeholders stand for, come to contributions. -/
structure Means (request : UpdateRequest) (clauses : Clauses) (cs : List (String × Value)) :
    Prop where
  /-- The clauses are those of the update expression. -/
  text : request.update = clauses.expression?
  /-- Attributes without contributions are not assigned. -/
  unassigned : ∀ attr, isOrdinary attr = true → lastContribution? cs attr = none →
    ∀ fragment ∈ clauses.set, assigned? request.names fragment ≠ some attr
  /-- Attributes with contributions are assigned the last one, by one fragment. -/
  assigned : ∀ attr value, isOrdinary attr = true → lastContribution? cs attr = some value →
    ∃ body, (clauses.set.filter fun fragment => assigned? request.names fragment = some attr) =
        [namePlaceholder body ++ " = " ++ valuePlaceholder body] ∧
      request.names.find? (namePlaceholder body) = some attr ∧
      request.values.find? (valuePlaceholder body) = some value
  /-- They are assigned in the order of their first contributions. -/
  ordered : (clauses.set.filterMap (assigned? request.names)).filter isOrdinary =
    ((cs.map Prod.fst).filter isOrdinary).eraseDups

section Records

variable {own : Part → Prop} {calls : List (World × Call)}
variable (h : (update.run calls).2.Records own (update.history calls))
include h

/-- The fragments that assign an ordinary attribute: one if it has a contribution, else none. -/
theorem filter_assigned?_run (mine : own (.clause .set)) (mineNames : own .names) {attr : String}
    (ordinary : isOrdinary attr = true) :
    ((update.run calls).2.clauses.set.filter fun fragment =>
        assigned? (update.run calls).2.names fragment = some attr) =
      if attr ∈ (update.contributions calls).map Prod.fst then
        [(update.run calls).2.placeholders.text ⟨.plain, attr⟩]
      else [] := by
  rw [h.filter_assigned?_set mine mineNames, filter_assignments_attr update calls ordinary]
  split <;> rfl

theorem filterMap_assigned?_run (mine : own (.clause .set)) (mineNames : own .names) :
    ((update.run calls).2.clauses.set.filterMap
        (assigned? (update.run calls).2.names)).filter isOrdinary =
      (((update.contributions calls).map Prod.fst).filter isOrdinary).eraseDups := by
  rw [h.filterMap_assigned?_set mine mineNames, List.filter_map]
  change List.map _ (List.filter (fun a : Assignment => isOrdinary a.attr) _) = _
  rw [filter_assignments, List.map_map]
  exact List.map_id _

end Records

/--
A run without SET fragments, names and values of the caller's own builds a request that means what
its payloads have contributed.
-/
theorem means_contributions {settings : Settings} {table : String} {key : List (String × Value)}
    (started : start settings table key = .ok update)
    (generated : ∀ call ∈ calls,
      call.2.part? ∉ [some (.clause .set), some .names, some .values]) :
    Means (update.run calls).2.request (update.run calls).2.clauses
      (update.contributions calls) := by
  have records : (update.run calls).2.Records
      (fun part => part ∈ [.clause .set, .names, .values]) (update.history calls) :=
    records_run (fresh_of_start started).records fun call mem part of mine =>
      generated call mem (of ▸ List.mem_map_of_mem (f := some) mine)
  have mineSet : Part.clause .set ∈ [Part.clause .set, .names, .values] := by decide
  have mineNames : Part.names ∈ [Part.clause .set, .names, .values] := by decide
  have mineValues : Part.values ∈ [Part.clause .set, .names, .values] := by decide
  refine ⟨rfl, fun attr ordinary none fragment mem eq => ?_,
    fun attr value ordinary last => ?_, filterMap_assigned?_run records mineSet mineNames⟩
  · have fragments := filter_assigned?_run records mineSet mineNames ordinary
    rw [if_neg (lastContribution?_eq_none_iff.1 none), List.filter_eq_nil_iff] at fragments
    exact fragments fragment mem (decide_eq_true eq)
  · have fragments := filter_assigned?_run records mineSet mineNames ordinary
    have contributed : attr ∈ (update.contributions calls).map Prod.fst := by
      by_contra absent
      rw [lastContribution?_eq_none_iff.2 absent] at last
      cases last
    rw [if_pos contributed] at fragments
    rw [← lastValue?_history update calls ordinary] at last
    obtain ⟨body, has⟩ := records.body_iff.2 (exists_lastValue?_iff.1 ⟨value, last⟩)
    rw [Placeholders.text_of_find? has] at fragments
    exact ⟨body, fragments, (records.names mineNames _ _).2 ⟨body, has, rfl⟩,
      (records.values mineValues _ _).2 (.inl ⟨attr, body, has, rfl, last⟩)⟩

/-- Payloads with changes of the key and the marks between them. -/
def changingCalls : List (World × Call) :=
  [(default, .merge [("a", .text "1"), ("id", .text "x"), ("b", .text "")]),
    (default, .key [("a", .text "k")]), (default, .mark ["b"]),
    (default, .merge [("a", .text "2"), ("id", .text "y"), ("b", .text "")])]

theorem means_contributions_of_changes :
    ∃ update, start {} "t" [("id", .text "1")] = .ok update ∧
      (∀ call ∈ changingCalls,
        call.2.part? ∉ [some (.clause .set), some .names, some .values]) ∧
      update.contributions changingCalls =
        [("a", .text "1"), ("b", .text ""), ("id", .text "y"), ("b", .null)] ∧
      Means (update.run changingCalls).2.request (update.run changingCalls).2.clauses
        (update.contributions changingCalls) := by
  have generated : ∀ call ∈ changingCalls,
      call.2.part? ∉ [some (.clause .set), some .names, some .values] := by decide
  have started : start {} "t" [("id", .text "1")] = .ok _ := rfl
  exact ⟨_, started, generated, by decide +kernel, means_contributions started generated⟩

end ItemStore.Update
