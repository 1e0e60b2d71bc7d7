import Mathlib
import ItemStore.Proofs.Runs
import ItemStore.Proofs.Update.Conditions
import ItemStore.Proofs.Update.Finalized

/-!
# ItemStore.Proofs.Update.Growth

What is contributed to an update stays in it, whatever is called later.

No call takes anything back: fragments keep their places, placeholders stay told, and what has
happened once has happened (`Retains.step`). The condition goes on at its end (`Continues`). This
rests on conditions never being blank, since an empty one would be replaced (`HasVisibleCondition`).
-/

namespace ItemStore.Update

open Expression (ClauseKind Clauses Connective Placeholders joinCondition)

variable {update changed : Update} {world : World} {call : Call}

/-! ### Clauses -/

theorem withFragments_fragments (clauses : Clauses) (kind : ClauseKind) :
    clauses.withFragments kind (clauses.fragments kind) = clauses := by
  cases kind <;> rfl

theorem withFragments_withFragments (clauses : Clauses) (kind : ClauseKind)
    (texts others : List String) :
    (clauses.withFragments kind texts).withFragments kind others =
      clauses.withFragments kind others := by
  cases kind <;> rfl

/-- Fragments that are pushed one after the other stand behind the ones that were there. -/
theorem foldl_push (clauses : Clauses) (kind : ClauseKind) (texts : List String) :
    texts.foldl (fun clauses text => clauses.push kind text) clauses =
      clauses.withFragments kind (clauses.fragments kind ++ texts) := by
  induction texts generalizing clauses with
  | nil => simp [withFragments_fragments]
  | cons text rest ih =>
      rw [List.foldl_cons, ih, Clauses.fragments_push_self, Clauses.push,
        withFragments_withFragments, List.append_assoc, List.singleton_append]

theorem prefix_push (clauses : Clauses) (kind other : ClauseKind) (text : String) :
    clauses.fragments other <+: (clauses.push kind text).fragments other := by
  by_cases same : other = kind
  · subst same
    rw [Clauses.fragments_push_self]
    exact List.prefix_append _ _
  · rw [Clauses.fragments_push_of_ne same]

theorem prefix_pushUnique (clauses : Clauses) (kind other : ClauseKind) (text : String) :
    clauses.fragments other <+: (clauses.pushUnique kind text).fragments other := by
  unfold Clauses.pushUnique
  split
  · exact List.prefix_refl _
  · exact prefix_push clauses kind other text

/-! ### What stays -/

/-- Whether a change takes nothing back that was contributed to an update. -/
structure Retains (update changed : Update) : Prop where
  /-- The fragments of each clause keep their places. Others may follow. -/
  clauses : ∀ kind, update.clauses.fragments kind <+: changed.clauses.fragments kind
  /-- Name placeholders stay told, if not what they stand for. -/
  names : ∀ ph, update.names.contains ph = true → changed.names.contains ph = true
  /-- Value placeholders stay told, if not what they stand for. -/
  values : ∀ ph, update.values.contains ph = true → changed.values.contains ph = true
  /-- The update stays locked. -/
  locked : update.locked = true → changed.locked = true
  /-- The timestamps stay dealt with. -/
  merged : update.merged = true → changed.merged = true
  /-- The request stays built. -/
  phase : update.phase = .finalized → changed.phase = .finalized

namespace Retains

theorem refl (update : Update) : update.Retains update :=
  ⟨fun _ => List.prefix_refl _, fun _ => id, fun _ => id, id, id, id⟩

theorem trans {first second third : Update} (h : first.Retains second)
    (next : second.Retains third) : first.Retains third where
  clauses kind := (h.clauses kind).trans (next.clauses kind)
  names ph mem := next.names ph (h.names ph mem)
  values ph mem := next.values ph (h.values ph mem)
  locked is := next.locked (h.locked is)
  merged is := next.merged (h.merged is)
  phase is := next.phase (h.phase is)

theorem write (update : Update) (w : Write) : update.Retains (update.write w) where
  clauses kind := prefix_pushUnique _ _ _ _
  names ph mem := by simp [NameMap.contains_insert, mem]
  values ph mem := by simp [NameMap.contains_insert, mem]
  locked := id
  merged := id
  phase := id

theorem merge (update : Update) (clock : Clock) (payload : Payload) :
    update.Retains (update.merge clock payload) := by
  have all : update.Retains ((update.writes clock payload).foldl Update.write update) :=
    foldl_write_induction (P := update.Retains)
      (fun changed w _ kept => kept.trans (write changed w)) (refl update)
  rw [merge_eq]
  exact ⟨all.clauses, all.names, all.values, all.locked, fun _ => rfl, all.phase⟩

theorem lock (h : update.placeholders.Regular) (revision : Nat) :
    update.Retains (update.lock revision) := by
  rw [lock_eq h]
  refine ⟨fun kind => ?_, fun ph mem => ?_, fun ph mem => ?_, fun _ => rfl, id, id⟩
  · cases update.locked
    · exact prefix_pushUnique _ _ _ _
    · exact List.prefix_refl _
  · simp [NameMap.contains_insert, mem]
  · simp [NameMap.contains_insert, mem]

theorem addFragments (update : Update) (kind : ClauseKind) (texts : List String) :
    update.Retains (update.addFragments kind texts) := by
  refine ⟨fun other => ?_, ?_, ?_, ?_, ?_, ?_⟩
  · by_cases same : other = kind
    · subst same
      rw [fragments_addFragments]
      exact List.prefix_append _ _
    · have leaves := leaves_addFragments update kind texts
      rw [leaves.clauses other fun eq => same (by simpa using eq.symm)]
  all_goals
    rw [addFragments_eq]
    simp

/-- No effect takes anything back. What is to be seen from elsewhere is that the phase stays. -/
theorem does {effect : Effect} (does : update.Does world effect changed)
    (regular : update.placeholders.Regular)
    (phase : update.phase = .finalized → changed.phase = .finalized) :
    update.Retains changed := by
  cases effect with
  | nothing =>
      refine ⟨fun kind => ?_, ?_, ?_, ?_, ?_, phase⟩
      · rw [does.clauses]
      · rw [does.names]; exact fun _ => id
      · rw [does.values]; exact fun _ => id
      · rw [does.locked]; exact id
      · rw [does.merged]; exact id
  | lock revision =>
      obtain rfl := does
      exact lock regular revision
  | merge payload =>
      obtain rfl := does
      exact merge update world.clock payload
  | fragments kind texts =>
      obtain rfl := does
      exact addFragments update kind texts
  | names pairs =>
      obtain rfl := does
      refine ⟨fun _ => List.prefix_refl _, fun ph mem => ?_, fun _ => id, id, id, id⟩
      exact (NameMap.contains_insertAll _ _ _).2 (.inr mem)
  | values pairs =>
      obtain rfl := does
      refine ⟨fun _ => List.prefix_refl _, fun _ => id, fun ph mem => ?_, id, id, id⟩
      exact (NameMap.contains_insertAll _ _ _).2 (.inr mem)
  | join expression connective =>
      obtain rfl := does
      exact ⟨fun _ => List.prefix_refl _, fun _ => id, fun _ => id, id, id, id⟩

theorem step (regular : update.placeholders.Regular) (world : World) (call : Call) :
    update.Retains (update.step world call).2 :=
  does (step_does world update call) regular fun built =>
    ((Frozen.refl built).step world call).phase

theorem run (regular : update.placeholders.Regular) (calls : List (World × Call)) :
    update.Retains (update.run calls).2 := by
  induction calls generalizing update with
  | nil => exact refl update
  | cons call rest ih =>
      have next := (step_does call.1 update call.2).regular regular
      exact (step regular call.1 call.2).trans (ih next)

end Retains

/-! ### The condition -/

/-- How a condition goes on: by nothing, or by an expression at its end that is not blank. -/
inductive Continues : Option String → Option String → Prop
  | same (condition : Option String) : Continues condition condition
  | first {expression : String} (visible : Text.isBlank expression = false) :
      Continues none (some expression)
  | further {condition expression : String} (connective : Connective)
      (visible : Text.isBlank expression = false) :
      Continues (some condition)
        (some (condition ++ " " ++ connective.keyword ++ " " ++ expression))

/-- Whether the condition, if there is one, is not blank. -/
def HasVisibleCondition (update : Update) : Prop :=
  ∀ condition, update.condition = some condition → Text.isBlank condition = false

/-- What a visible condition goes on as is visible. -/
theorem Continues.visible {before after : Option String} (h : Continues before after)
    (visible : ∀ condition, before = some condition → Text.isBlank condition = false) :
    ∀ condition, after = some condition → Text.isBlank condition = false := by
  cases h with
  | same => exact visible
  | first new =>
      intro condition eq
      rwa [← Option.some.inj eq]
  | further connective new =>
      intro condition eq
      rw [← Option.some.inj eq]
      simp [Text.isBlank_append, visible _ rfl]

theorem continues_joinCondition {condition : Option String} {expression : String}
    (visible : ∀ text, condition = some text → Text.isBlank text = false)
    (new : Text.isBlank expression = false) (connective : Connective) :
    Continues condition (some (joinCondition condition expression connective)) := by
  cases condition with
  | none => exact .first new
  | some text =>
      have filled : text.isEmpty = false := by
        cases empty : text.isEmpty with
        | false => rfl
        | true =>
            have blank := visible text rfl
            rw [String.isEmpty_iff.1 empty] at blank
            cases blank
      rw [joinCondition, filled]
      exact .further connective new

/-- Calls join no blank expressions. -/
theorem visible_of_effect_join {expression : String} {connective : Connective}
    (h : call.effect = .join expression connective) : Text.isBlank expression = false := by
  cases call with
  | condition text operator =>
      rw [Call.effect] at h
      split at h
      · cases h
      · rename_i visible
        cases h
        simpa using visible
  | lock revision => cases revision <;> cases h
  | mergeDocument document =>
      rw [Call.effect] at h
      split at h <;> cases h
  | _ => cases h

theorem HasVisibleCondition.continues (h : update.HasVisibleCondition)
    (regular : update.placeholders.Regular) (world : World) (call : Call) :
    Continues update.condition (update.step world call).2.condition := by
  rw [(step_does world update call).condition_eq regular]
  cases effect : call.effect with
  | join expression connective =>
      exact continues_joinCondition h (visible_of_effect_join effect) connective
  | lock revision =>
      rw [Effect.joins]
      split
      · exact .same _
      · exact continues_joinCondition h (by decide) .and
  | _ => exact .same _

theorem HasVisibleCondition.run (h : update.HasVisibleCondition)
    (regular : update.placeholders.Regular) (calls : List (World × Call)) :
    (update.run calls).2.HasVisibleCondition := by
  refine (ItemStore.Call.invariant_run
    (P := fun update : Update => update.placeholders.Regular ∧ update.HasVisibleCondition)
    (fun update call kept => ⟨?_, ?_⟩) ⟨regular, h⟩ calls).2
  · exact (step_does call.1 update call.2).regular kept.1
  · exact (kept.2.continues kept.1 call.1 call.2).visible kept.2

/-! ### Fragments of the caller -/

/-- The clause to which a call adds fragments as its caller gives them, with the fragments. -/
def Call.fragments? : Call → Option (ClauseKind × List String)
  | .fragment kind text => some (kind, [text])
  | .removeAll texts => some (.remove, texts)
  | _ => none

/-- Fragments of the caller that are not blank are added to their clause, and that is all. -/
theorem step_of_fragments {kind : ClauseKind} {texts : List String}
    (h : call.fragments? = some (kind, texts)) (world : World) (update : Update) :
    update.step world call =
      (.done, { update with
        clauses := update.clauses.withFragments kind
          (update.clauses.fragments kind ++ texts.filter fun text => !Text.isBlank text) }) := by
  have added := addFragments_eq update kind texts
  rw [foldl_push] at added
  cases call with
  | fragment _ _ =>
      cases h
      exact congrArg (Prod.mk ItemStore.Call.Result.done) added
  | removeAll _ =>
      cases h
      exact congrArg (Prod.mk ItemStore.Call.Result.done) added
  | _ => cases h

/-! ### Runs -/

/--
Nothing that is contributed to an update is lost. In every run, each call leaves the fragments of
all clauses in their places, the placeholders told, the update locked, the timestamps dealt with
and the request built, as far as they are; so does the rest of the run. The condition stays as it
is or goes on at its end by an expression that is not blank. A call that adds fragments of the
caller adds the ones that are not blank to their clause, in order, and changes nothing else.
-/
theorem retains_of_started {settings : Settings} {table : String} {key : List (String × Value)}
    (started : start settings table key = .ok update) (calls : List (World × Call)) :
    (∀ world call, (update.run calls).2.Retains ((update.run calls).2.step world call).2 ∧
      Continues (update.run calls).2.condition
        ((update.run calls).2.step world call).2.condition) ∧
    (∀ later, (update.run calls).2.Retains (update.run (calls ++ later)).2) ∧
    ∀ world call kind texts, call.fragments? = some (kind, texts) →
      (update.run calls).2.step world call =
        (.done, { (update.run calls).2 with
          clauses := (update.run calls).2.clauses.withFragments kind
            ((update.run calls).2.clauses.fragments kind ++
              texts.filter fun text => !Text.isBlank text) }) := by
  have fresh := fresh_of_start started
  have regular := regular_run fresh calls
  have visible : (update.run calls).2.HasVisibleCondition := by
    refine HasVisibleCondition.run ?_ (fresh.placeholders ▸ Placeholders.regular_start) calls
    intro condition eq
    rw [fresh.condition] at eq
    cases eq
  refine ⟨fun world call => ⟨?_, ?_⟩, fun later => ?_, fun world call kind texts adds => ?_⟩
  · exact Retains.step regular world call
  · exact visible.continues regular world call
  · rw [run_append]
    exact Retains.run regular later
  · exact step_of_fragments adds world _

/-- Calls of all kinds, some of them refused, with a request among them. -/
def variedCalls : List (World × Call) :=
  [(default, .fragment .remove "#a"), (default, .merge [("a", .text "1")]),
    (default, .condition "#a = :a"), (default, .lock (some 1)), (default, .execute),
    (default, .table "t2"), (default, .names [("#a", "b")])]

theorem retains_of_variedCalls :
    ∃ update, start {} "t" [("id", .text "1")] = .ok update ∧
      (update.run variedCalls).2.clauses.remove = ["#a"] ∧
      (update.run variedCalls).2.condition = some "#a = :a AND #rev = :rev" ∧
      (update.run variedCalls).2.Retains
        ((update.run variedCalls).2.step default (.removeAll ["#a", " ", "#c"])).2 ∧
      ((update.run variedCalls).2.step default (.removeAll ["#a", " ", "#c"])).2.clauses.remove =
        ["#a", "#a", "#c"] := by
  have started : start {} "t" [("id", .text "1")] = .ok _ := rfl
  obtain ⟨each, -, adds⟩ := retains_of_started started variedCalls
  refine ⟨_, started, by decide +kernel, by decide +kernel, (each default _).1, ?_⟩
  rw [adds default (.removeAll ["#a", " ", "#c"]) .remove ["#a", " ", "#c"] rfl]
  decide +kernel

end ItemStore.Update
