import Mathlib
import ItemStore.Proofs.Runs
import ItemStore.Proofs.Update.Growth

/-!
# ItemStore.Proofs.Update.Interleaving

Calls about different things, in any order.

Almost every call is about one thing: what is assigned, the condition, another clause, the table, or
the shape of the response. Such a call reads and writes nothing else, but for the lock and the
phase, which it only reads (`step_graft`). So the calls about one thing do what they do without the
others, wherever these stand (`Agrees.run`), and two runs that differ in the order of calls about
different things lead to the same update (`interleavings_agree`).
-/

namespace ItemStore.Update

open Expression (ClauseKind Clauses)

variable {update source target : Update} {world : World} {call : Call}

/-! ### What calls are about -/

/-- What a call is about. -/
inductive Concern
  /-- What is assigned: the key, the marks, the timestamps, payloads, fragments of the SET clause,
  and what placeholders stand for. -/
  | assignments
  | condition
  /-- The fragments of the ADD clause. -/
  | additions
  /-- The fragments of the REMOVE clause. -/
  | removals
  /-- The fragments of the DELETE clause. -/
  | deletions
  | table
  /-- Which attributes are returned. -/
  | returnValues
  /-- Whether the size of the item's collection is told. -/
  | metrics
  /-- In which detail the consumed capacity is told. -/
  | capacity
deriving DecidableEq, Repr

/-- What the fragments of a clause are about. -/
def Concern.ofClause : ClauseKind → Concern
  | .set => .assignments
  | .add => .additions
  | .remove => .removals
  | .delete => .deletions

/-- What a call is about, unless it locks the update or builds the request. -/
def Call.concern? : Call → Option Concern
  | .table _ => some .table
  | .key _ | .mark _ | .disableStamp _ | .stamp _ _ => some .assignments
  | .merge _ | .mergeDocument _ | .names _ | .values _ => some .assignments
  | .fragment kind _ => some (.ofClause kind)
  | .removeAll _ => some .removals
  | .condition _ _ => some .condition
  | .returnValues _ => some .returnValues
  | .metrics _ => some .metrics
  | .capacity _ => some .capacity
  | .lock _ | .request | .execute => none

/-- An update with what a concern is about taken from another one. -/
def graft (concern : Concern) (source target : Update) : Update :=
  match concern with
  | .assignments =>
      { target with
        key := source.key
        clauses := { target.clauses with set := source.clauses.set }
        placeholders := source.placeholders
        names := source.names
        values := source.values
        marked := source.marked
        created := source.created
        updated := source.updated
        merged := source.merged }
  | .condition => { target with condition := source.condition }
  | .additions => { target with clauses := { target.clauses with add := source.clauses.add } }
  | .removals => { target with clauses := { target.clauses with remove := source.clauses.remove } }
  | .deletions => { target with clauses := { target.clauses with delete := source.clauses.delete } }
  | .table => { target with table := source.table }
  | .returnValues => { target with returnValues := source.returnValues }
  | .metrics => { target with metrics := source.metrics }
  | .capacity => { target with capacity := source.capacity }

section Graft

variable (concern : Concern) (first second : Update)

@[simp] theorem locked_graft : (graft concern source target).locked = target.locked := by
  cases concern <;> rfl

@[simp] theorem phase_graft : (graft concern source target).phase = target.phase := by
  cases concern <;> rfl

@[simp] theorem graft_self (update : Update) : graft concern update update = update := by
  cases concern <;> rfl

@[simp] theorem graft_graft :
    graft concern first (graft concern second target) = graft concern first target := by
  cases concern <;> rfl

@[simp] theorem graft_of_graft (update : Update) :
    graft concern (graft concern first second) update = graft concern first update := by
  cases concern <;> rfl

/-- Concerns share no fields. -/
theorem graft_comm {concern other : Concern} (ne : concern ≠ other) :
    graft concern first (graft other second target) =
      graft other second (graft concern first target) := by
  cases concern <;> cases other <;> first | rfl | exact absurd rfl ne

end Graft

/-- Besides the lock and the phase, every field belongs to a concern. -/
theorem eq_of_graft (locked : source.locked = target.locked) (phase : source.phase = target.phase)
    (parts : ∀ concern, graft concern source target = target) : source = target := by
  calc
    source = graft .assignments source (graft .condition source (graft .additions source
        (graft .removals source (graft .deletions source (graft .table source
          (graft .returnValues source (graft .metrics source (graft .capacity source
            { target with locked := source.locked, phase := source.phase })))))))) := rfl
    _ = target := by simp only [locked, phase, parts]

/-! ### One call -/

section Step

variable {concern : Concern}

/-- A change of the grafted part is refused, or made, as it is where the part comes from. -/
theorem change_graft (result : Except Refusal Update) :
    (ItemStore.Call.change (graft concern source target)
        (result.map fun changed => graft concern changed target) : Result × Update) =
      Prod.map id (graft concern · target) (ItemStore.Call.change source result) := by
  cases result <;> rfl

theorem whileBuilding_graft (phase : target.phase = source.phase) (setting : Setting)
    (result : Except Refusal Update) :
    (graft concern source target).whileBuilding setting
        (result.map fun changed => graft concern changed target) =
      (source.whileBuilding setting result).map fun changed => graft concern changed target := by
  rw [whileBuilding, whileBuilding, phase_graft, phase]
  cases source.phase <;> rfl

theorem write_graft (w : Write) :
    (graft .assignments source target).write w = graft .assignments (source.write w) target := by
  have pushed : ∀ fragment, ({ target.clauses with set := source.clauses.set } : Clauses).pushUnique
      .set fragment =
        { target.clauses with set := (source.clauses.pushUnique .set fragment).set } := by
    intro fragment
    by_cases there : fragment ∈ source.clauses.set <;>
      simp [Clauses.pushUnique, Clauses.fragments, Clauses.push, Clauses.withFragments, there]
  simp only [write, assignBy, graft, pushed]

theorem foldl_write_graft (ws : List Write) (source target : Update) :
    ws.foldl write (graft .assignments source target) =
      graft .assignments (ws.foldl write source) target := by
  induction ws generalizing source with
  | nil => rfl
  | cons w ws ih => rw [List.foldl_cons, write_graft, ih, List.foldl_cons]

/-- A payload makes the same writes wherever the lock is the same. -/
theorem merge_graft (locked : target.locked = source.locked) (clock : Clock) (payload : Payload) :
    (graft .assignments source target).merge clock payload =
      graft .assignments (source.merge clock payload) target := by
  have admits : (graft .assignments source target).admits = source.admits := by
    funext attr
    simp only [Update.admits, locked_graft, locked]
    rfl
  have entries : (graft .assignments source target).entryWrites payload =
      source.entryWrites payload := by
    unfold entryWrites
    congr 1
    funext entry
    rw [entryWrite?, admits]
    rfl
  have writes : (graft .assignments source target).writes clock payload =
      source.writes clock payload := by
    rw [Update.writes, entries]
    rfl
  rw [merge_eq, merge_eq, writes, foldl_write_graft]
  rfl

/-- A call does to its concern what it does where the concern comes from. -/
theorem step_graft (about : call.concern? = some concern) (locked : target.locked = source.locked)
    (phase : target.phase = source.phase) (world : World) :
    (graft concern source target).step world call =
      Prod.map id (graft concern · target) (source.step world call) := by
  cases call with
  | table name =>
      cases about
      rw [step_table, step_table, ← change_graft, ← whileBuilding_graft phase]
      cases Address.table name <;> rfl
  | key pairs =>
      cases about
      rw [step_key, step_key, ← change_graft, ← whileBuilding_graft phase]
      cases Address.key pairs <;> rfl
  | mark attrs =>
      cases about
      rw [step_mark, step_mark, ← change_graft, ← whileBuilding_graft phase]
      rfl
  | disableStamp audit =>
      cases about
      rw [step_disableStamp, step_disableStamp, ← change_graft, ← whileBuilding_graft phase]
      cases audit <;> rfl
  | stamp audit stamp =>
      cases about
      rw [step_stamp, step_stamp, ← change_graft, ← whileBuilding_graft phase]
      cases stamp.checked audit <;> cases audit <;> rfl
  | lock revision => cases about
  | merge payload =>
      cases about
      rw [step, step, merge_graft locked]
      rfl
  | mergeDocument document =>
      cases about
      rw [step_mergeDocument, step_mergeDocument, ← change_graft]
      cases Payload.ofDocument document with
      | ok payload => exact congrArg (ItemStore.Call.change _ ∘ .ok) (merge_graft locked _ payload)
      | error refusal => rfl
  | fragment kind text =>
      cases about
      rw [step_of_fragments rfl, step_of_fragments rfl]
      cases kind <;> rfl
  | removeAll texts =>
      cases about
      rw [step_of_fragments rfl, step_of_fragments rfl]
      rfl
  | names pairs =>
      cases about
      rfl
  | values pairs =>
      cases about
      rfl
  | condition expression connective =>
      cases about
      rw [step_condition, step_condition, ← change_graft]
      cases Text.isBlank expression <;> rfl
  | returnValues choice =>
      cases about
      rfl
  | metrics choice =>
      cases about
      rfl
  | capacity choice =>
      cases about
      rfl
  | request => cases about
  | execute => cases about

/-- A call changes nothing but its concern. -/
theorem step_eq_graft (about : call.concern? = some concern) (world : World) (update : Update) :
    (update.step world call).2 = graft concern (update.step world call).2 update := by
  have own : (graft concern update update).step world call =
      Prod.map id (graft concern · update) (update.step world call) :=
    step_graft about rfl rfl world
  rw [graft_self] at own
  exact congrArg Prod.snd own

end Step

/-! ### Runs in a world that stays as it is -/

/-- The calls of a run, each with its result. -/
def answers (world : World) (update : Update) (calls : List Call) : List (Call × Result) :=
  calls.zip (update.run (calls.map (world, ·))).1

/-- The update to which calls lead. -/
def final (world : World) (update : Update) (calls : List Call) : Update :=
  (update.run (calls.map (world, ·))).2

theorem answers_cons (world : World) (update : Update) (call : Call) (rest : List Call) :
    answers world update (call :: rest) =
      (call, (update.step world call).1) :: answers world (update.step world call).2 rest := rfl

theorem final_cons (world : World) (update : Update) (call : Call) (rest : List Call) :
    final world update (call :: rest) = final world (update.step world call).2 rest := rfl

/-- Whether a call is about something. -/
def Call.isAbout (call : Call) (concern : Concern) : Bool := call.concern? == some concern

theorem Call.isAbout_iff {concern : Concern} :
    call.isAbout concern = true ↔ call.concern? = some concern := beq_iff_eq

/-- Whether two updates agree in the lock, in the phase and in a concern. -/
structure Agrees (concern : Concern) (alone mixed : Update) : Prop where
  locked : mixed.locked = alone.locked
  phase : mixed.phase = alone.phase
  part : graft concern alone mixed = mixed

section Agrees

variable {concern other : Concern} {alone mixed : Update}

theorem Agrees.refl (concern : Concern) (update : Update) : Agrees concern update update :=
  ⟨rfl, rfl, graft_self concern update⟩

/-- Updates that agree with a third one in a concern agree in it with each other. -/
theorem Agrees.symm_trans (h : Agrees concern source mixed) (h' : Agrees concern source target) :
    Agrees concern mixed target where
  locked := h'.locked.trans h.locked.symm
  phase := h'.phase.trans h.phase.symm
  part := by rw [← h.part, graft_of_graft, h'.part]

/-- Updates that agree in everything are the same. -/
theorem eq_of_agrees (agree : ∀ concern, Agrees concern source target) : source = target :=
  eq_of_graft (agree .table).locked.symm (agree .table).phase.symm fun concern =>
    (agree concern).part

/-- A call about the concern comes back with the same, and the updates go on agreeing. -/
theorem Agrees.own (h : Agrees concern alone mixed) (about : call.concern? = some concern)
    (world : World) :
    (mixed.step world call).1 = (alone.step world call).1 ∧
      Agrees concern (alone.step world call).2 (mixed.step world call).2 := by
  have taken : mixed.step world call =
      Prod.map id (graft concern · mixed) (alone.step world call) := by
    rw [← step_graft about h.locked h.phase, h.part]
  have kept := step_eq_graft about world alone
  refine ⟨?_, ?_, ?_, ?_⟩
  · rw [taken]
    rfl
  · rw [taken, kept]
    simp [h.locked]
  · rw [taken, kept]
    simp [h.phase]
  · rw [taken]
    simp

/-- A call about something else is not to be seen. -/
theorem Agrees.foreign (h : Agrees concern alone mixed) (about : call.concern? = some other)
    (ne : concern ≠ other) (world : World) : Agrees concern alone (mixed.step world call).2 := by
  rw [step_eq_graft about world mixed]
  refine ⟨?_, ?_, ?_⟩
  · rw [locked_graft, h.locked]
  · rw [phase_graft, h.phase]
  · rw [graft_comm _ _ ne, h.part]

/-- The calls about a concern do what they do without the others. -/
theorem Agrees.run (h : Agrees concern alone mixed) (world : World) {calls : List Call}
    (only : ∀ call ∈ calls, call.concern? = none → call = .lock none) :
    (answers world mixed calls).filter (·.1.isAbout concern) =
        answers world alone (calls.filter (·.isAbout concern)) ∧
      Agrees concern (final world alone (calls.filter (·.isAbout concern)))
        (final world mixed calls) := by
  induction calls generalizing alone mixed with
  | nil => exact ⟨rfl, h⟩
  | cons call rest ih =>
      have only' := fun next mem => only next (List.mem_cons_of_mem _ mem)
      rw [answers_cons, final_cons]
      cases about : call.concern? with
      | none =>
          obtain rfl := only call List.mem_cons_self about
          exact ih h only'
      | some other =>
          by_cases same : concern = other
          · subst same
            have own : call.isAbout concern = true := Call.isAbout_iff.2 about
            obtain ⟨result, next⟩ := h.own about world
            obtain ⟨results, last⟩ := ih next only'
            rw [List.filter_cons, List.filter_cons, if_pos own, if_pos own, answers_cons, final_cons,
              result, results]
            exact ⟨rfl, last⟩
          · have foreign : ¬call.isAbout concern = true := by
              rw [Call.isAbout_iff, about]
              exact fun eq => same (Option.some.inj eq).symm
            rw [List.filter_cons, List.filter_cons, if_neg foreign, if_neg foreign]
            exact ih (h.foreign about same world) only'

end Agrees

/-! ### Interleavings -/

/--
Whether calls are an interleaving of sequences, one for each concern. Calls that lock the update on
no revision may stand anywhere.
-/
structure Interleaves (sequences : Concern → List Call) (calls : List Call) : Prop where
  ordered : ∀ concern, calls.filter (·.isAbout concern) = sequences concern
  only : ∀ call ∈ calls, call.concern? = none → call = .lock none

/--
The order of calls about different things does not matter. Whatever the calls about each thing are,
refused ones among them, all their interleavings lead from an update to the same update, and each
call comes back with the same. A call that locks on no revision changes nothing in any run, whatever
the other calls and their worlds are.
-/
theorem interleavings_agree (world : World) (update : Update) {sequences : Concern → List Call}
    {calls others : List Call} (one : Interleaves sequences calls)
    (another : Interleaves sequences others) :
    final world update calls = final world update others ∧
      (∀ concern, (answers world update calls).filter (·.1.isAbout concern) =
        (answers world update others).filter (·.1.isAbout concern)) ∧
      ∀ (world : World) (before after : List (World × Call)),
        update.run (before ++ (world, .lock none) :: after) =
          ((update.run before).1 ++ .done :: ((update.run before).2.run after).1,
            (update.run (before ++ after)).2) := by
  have alone : ∀ {calls}, Interleaves sequences calls → ∀ concern,
      (answers world update calls).filter (·.1.isAbout concern) =
          answers world update (sequences concern) ∧
        Agrees concern (final world update (sequences concern)) (final world update calls) :=
    fun weave concern =>
      weave.ordered concern ▸ (Agrees.refl concern update).run world weave.only
  refine ⟨?_, fun concern => ?_, fun world before after => ?_⟩
  · exact eq_of_agrees fun concern => (alone one concern).2.symm_trans (alone another concern).2
  · rw [(alone one concern).1, (alone another concern).1]
  · rw [run_append, Update.run, ItemStore.Call.run_append]
    rfl

/-- Calls about some of the things, refused ones among them. -/
def separateCalls : Concern → List Call
  | .assignments => [.key [], .merge [("a", .text "1")], .fragment .set "#b = :b"]
  | .condition => [.condition " ", .condition "#a = :a"]
  | .additions => [.fragment .add "#c :c"]
  | .removals => [.removeAll ["#d", " "]]
  | .table => [.table "t2"]
  | _ => []

/-- One interleaving of them. -/
def straightCalls : List Call :=
  [.key [], .merge [("a", .text "1")], .fragment .set "#b = :b", .condition " ",
    .condition "#a = :a", .fragment .add "#c :c", .removeAll ["#d", " "], .table "t2"]

/-- Another one, with a lock on no revision among them. -/
def wovenCalls : List Call :=
  [.table "t2", .condition " ", .key [], .removeAll ["#d", " "], .lock none,
    .merge [("a", .text "1")], .fragment .add "#c :c", .condition "#a = :a",
    .fragment .set "#b = :b"]

theorem agree_of_separateCalls :
    Interleaves separateCalls straightCalls ∧ Interleaves separateCalls wovenCalls ∧
      ∃ update, start {} "t" [("id", .text "1")] = .ok update ∧
        final default update straightCalls = final default update wovenCalls ∧
        ∀ concern, (answers default update straightCalls).filter (·.1.isAbout concern) =
          (answers default update wovenCalls).filter (·.1.isAbout concern) := by
  have straight : Interleaves separateCalls straightCalls :=
    ⟨fun concern => by cases concern <;> rfl, by simp [straightCalls, Call.concern?]⟩
  have woven : Interleaves separateCalls wovenCalls :=
    ⟨fun concern => by cases concern <;> rfl, by simp [wovenCalls, Call.concern?]⟩
  have started : start {} "t" [("id", .text "1")] = .ok _ := rfl
  obtain ⟨states, results, -⟩ := interleavings_agree default _ straight woven
  exact ⟨straight, woven, _, started, states, results⟩

end ItemStore.Update
