import Mathlib
import ItemStore.Proofs.Update.Growth
import ItemStore.Proofs.Update.Timestamps

/-!
# ItemStore.Proofs.Update.Clocks

Runs of the same calls under different clocks: what they have in common.

The clock is read for timestamps that the first payload brings along, unless a text is given for
them. What it says ends up as a value and nowhere else, so two such runs find updates that differ in
the values of these timestamps at most (`Similar`). Every call keeps that (`Similar.step`): none
looks at a value, and the placeholders of timestamps are the same in every run.
-/

namespace ItemStore.Update

open Expression (ClauseKind Placeholders isAlphanumeric valuePlaceholder)

variable {update other : Update} {world otherWorld : World} {calls others : List (World × Call)}
variable {loose : Audit → Prop} {values otherValues : NameMap Value}

/-! ### Values but for those of timestamps -/

/--
Whether the same placeholders are told, and stand for the same values but for those of some
timestamps.
-/
structure AgreeBut (loose : Audit → Prop) (values others : NameMap Value) : Prop where
  told : ∀ ph, others.contains ph = values.contains ph
  value : ∀ ph, (∀ audit, loose audit → ph ≠ ":" ++ audit.attr) → others.find? ph = values.find? ph

namespace AgreeBut

theorem refl (loose : Audit → Prop) (values : NameMap Value) : AgreeBut loose values values :=
  ⟨fun _ => rfl, fun _ _ => rfl⟩

/-- If the values of no timestamp may differ, none do. -/
theorem eq (h : AgreeBut loose values otherValues) (none : ∀ audit, ¬loose audit) :
    otherValues = values :=
  NameMap.ext_find? fun ph => h.value ph fun audit is => absurd is (none audit)

theorem insert (h : AgreeBut loose values otherValues) {ph : String} {v w : Value}
    (same : w ≠ v → ∃ audit, loose audit ∧ ph = ":" ++ audit.attr) :
    AgreeBut loose (values.insert ph v) (otherValues.insert ph w) where
  told n := by rw [NameMap.contains_insert, NameMap.contains_insert, h.told]
  value n firm := by
    rw [NameMap.find?_insert, NameMap.find?_insert]
    split
    · rename_i eq
      by_contra differ
      obtain ⟨audit, is, named⟩ := same fun eq => differ (congrArg some eq)
      exact firm audit is (eq.trans named)
    · exact h.value n firm

theorem insertAll (h : AgreeBut loose values otherValues) (pairs : List (String × Value)) :
    AgreeBut loose (values.insertAll pairs) (otherValues.insertAll pairs) := by
  induction pairs generalizing values otherValues with
  | nil => exact h
  | cons pair rest ih => exact ih (h.insert fun differ => absurd rfl differ)

end AgreeBut

/-! ### Requests and results -/

/-- Whether two requests agree but for the values of some timestamps. -/
structure RequestsAgreeBut (loose : Audit → Prop) (request other : UpdateRequest) : Prop where
  rest : other = { request with values := other.values }
  values : AgreeBut loose request.values other.values

/--
Whether calls come back with the same, but for the values of some timestamps in their requests. A
client is the same for both, so it answers each by its request.
-/
inductive ResultsAgreeBut (loose : Audit → Prop) : Result → Result → Prop
  | done : ResultsAgreeBut loose .done .done
  | refused (refusal : Refusal) : ResultsAgreeBut loose (.refused refusal) (.refused refusal)
  | request {request other : UpdateRequest} (agree : RequestsAgreeBut loose request other) :
      ResultsAgreeBut loose (.request request) (.request other)
  | answer {request other : UpdateRequest} (client : Client)
      (agree : RequestsAgreeBut loose request other) :
      ResultsAgreeBut loose (.answer [request] (client.update [] request))
        (.answer [other] (client.update [] other))

theorem RequestsAgreeBut.eq {request other : UpdateRequest}
    (h : RequestsAgreeBut loose request other) (none : ∀ audit, ¬loose audit) : other = request := by
  rw [h.rest, h.values.eq none]

theorem ResultsAgreeBut.eq {result other : Result} (h : ResultsAgreeBut loose result other)
    (none : ∀ audit, ¬loose audit) : other = result := by
  cases h with
  | done => rfl
  | refused refusal => rfl
  | request agree => rw [agree.eq none]
  | answer client agree => rw [agree.eq none]

/-! ### Updates -/

/-- An update with other values. -/
def withValues (update : Update) (values : NameMap Value) : Update := { update with values }

/-- Whether two updates agree but for the values of some timestamps. -/
structure Similar (loose : Audit → Prop) (update other : Update) : Prop where
  rest : other = update.withValues other.values
  values : AgreeBut loose update.values other.values

theorem Similar.refl (loose : Audit → Prop) (update : Update) : Similar loose update update :=
  ⟨rfl, .refl loose update.values⟩

theorem similar_withValues (h : AgreeBut loose update.values values) :
    Similar loose update (update.withValues values) :=
  ⟨rfl, h⟩

theorem Similar.request (h : Similar loose update other) :
    RequestsAgreeBut loose update.request other.request :=
  ⟨by rw [h.rest]; rfl, h.values⟩

/-- Whether calls come back with the same and leave similar updates. -/
structure StepsAgreeBut (loose : Audit → Prop) (taken other : Result × Update) : Prop where
  result : ResultsAgreeBut loose taken.1 other.1
  similar : Similar loose taken.2 other.2

/-- A change that does not look at values is made, or refused, whatever they are. -/
theorem change_withValues {result : Except Refusal Update}
    (kept : ∀ changed, result = .ok changed → changed.values = update.values)
    (h : AgreeBut loose update.values values) :
    StepsAgreeBut loose (ItemStore.Call.change update result)
      (ItemStore.Call.change (update.withValues values) (result.map (·.withValues values))) := by
  cases result with
  | ok changed =>
      rw [← kept changed rfl] at h
      exact ⟨.done, similar_withValues h⟩
  | error refusal => exact ⟨.refused refusal, similar_withValues h⟩

theorem whileBuilding_withValues (update : Update) (values : NameMap Value) (setting : Setting)
    (result : Except Refusal Update) :
    (update.withValues values).whileBuilding setting (result.map (·.withValues values)) =
      (update.whileBuilding setting result).map (·.withValues values) := by
  rw [whileBuilding, whileBuilding, show (update.withValues values).phase = update.phase from rfl]
  cases update.phase <;> rfl

/-! ### Payloads -/

/-- Whether two writes are the same, but for the values of some timestamps. -/
structure WriteAgreesBut (loose : Audit → Prop) (w other : Write) : Prop where
  form : other.form = w.form
  attr : other.attr = w.attr
  value : other.value ≠ w.value → ∃ audit, loose audit ∧ w.attr = audit.attr

theorem write_withValues (update : Update) (values : NameMap Value) {w other : Write}
    (h : WriteAgreesBut loose w other) :
    (update.withValues values).write other =
      (update.write w).withValues
        (values.insert (valuePlaceholder (update.placeholders.body w.attr).1) other.value) := by
  rw [write, write, h.form, h.attr]
  rfl

/-- Writes that agree leave similar updates: the placeholder of a timestamp is always plain. -/
theorem similar_foldl_write (regular : update.placeholders.Regular) {ws otherWs : List Write}
    (h : List.Forall₂ (WriteAgreesBut loose) ws otherWs)
    (agree : AgreeBut loose update.values values) :
    Similar loose (ws.foldl write update) (otherWs.foldl write (update.withValues values)) := by
  induction h generalizing update values with
  | nil => exact similar_withValues agree
  | cons first rest ih =>
      rw [List.foldl_cons, List.foldl_cons, write_withValues update values first]
      refine ih (regular_write regular _) (agree.insert fun differ => ?_)
      obtain ⟨audit, is, attr⟩ := first.value differ
      have plain := regular.body_eq audit.isAlphanumeric_attr
      rw [← attr] at plain
      exact ⟨audit, is, congrArg valuePlaceholder (plain.trans attr)⟩

/-- The clock is read for a timestamp that is due along with a payload and has no given text. -/
theorem stampWrites_agree {clock otherClock : Clock} {payload : Payload} {audit : Audit}
    (reads : update.isPending audit payload = true → (update.plan audit).text = none →
      loose audit) :
    List.Forall₂ (WriteAgreesBut loose) (update.stampWrite? clock payload audit).toList
      (update.stampWrite? otherClock payload audit).toList := by
  unfold stampWrite?
  split
  · rename_i due
    refine .cons ⟨rfl, rfl, fun differ => ⟨audit, ?_, rfl⟩⟩ .nil
    cases given : (update.plan audit).text with
    | none => exact reads due given
    | some text =>
        refine absurd ?_ differ
        rw [stampValue, stampValue, AuditPlan.resolve, AuditPlan.resolve, given]
        rfl
  · exact .nil

theorem writes_agree (clock otherClock : Clock) {payload : Payload}
    (reads : ∀ audit, update.isPending audit payload = true → (update.plan audit).text = none →
      loose audit) :
    List.Forall₂ (WriteAgreesBut loose) (update.writes clock payload)
      (update.writes otherClock payload) := by
  have entries : List.Forall₂ (WriteAgreesBut loose) (update.entryWrites payload)
      (update.entryWrites payload) :=
    List.forall₂_same.2 fun _ _ => ⟨rfl, rfl, fun differ => absurd rfl differ⟩
  exact List.rel_append (List.rel_append entries (stampWrites_agree (reads .created)))
    (stampWrites_agree (reads .updated))

theorem similar_merge (regular : update.placeholders.Regular)
    (agree : AgreeBut loose update.values values) {payload : Payload} {clock otherClock : Clock}
    (reads : ∀ audit, update.isPending audit payload = true → (update.plan audit).text = none →
      loose audit) :
    Similar loose (update.merge clock payload)
      ((update.withValues values).merge otherClock payload) := by
  have all := similar_foldl_write regular (writes_agree clock otherClock reads) agree
  rw [merge_eq, merge_eq]
  refine ⟨?_, all.values⟩
  rw [show (update.withValues values).writes otherClock payload =
    update.writes otherClock payload from rfl]
  exact congrArg (fun update : Update => { update with merged := true }) all.rest

/-! ### Calls -/

theorem similar_lock (regular : update.placeholders.Regular)
    (agree : AgreeBut loose update.values values) (revision : Nat) :
    Similar loose (update.lock revision) ((update.withValues values).lock revision) := by
  have regularOther : (update.withValues values).placeholders.Regular := regular
  rw [lock_eq regular, lock_eq regularOther]
  refine ⟨rfl, (agree.insert ?_).insert ?_⟩ <;> exact fun differ => absurd rfl differ

/--
A call comes back with the same whatever the clock says, but for the values of the timestamps that
it is read for.
-/
theorem Similar.step (similar : Similar loose update other) (regular : update.placeholders.Regular)
    (client : otherWorld.client = world.client) (call : Call)
    (reads : ∀ payload, call.effect = .merge payload → ∀ audit,
      update.isPending audit payload = true → (update.plan audit).text = none → loose audit) :
    StepsAgreeBut loose (update.step world call) (other.step otherWorld call) := by
  obtain ⟨rest, agree⟩ := similar
  generalize other.values = values at rest agree
  subst rest
  have changes {setting : Setting} {result otherResult : Except Refusal Update}
      (same : otherResult = result.map (·.withValues values))
      (kept : ∀ changed, result = .ok changed → changed.values = update.values) :
      StepsAgreeBut loose (ItemStore.Call.change update (update.whileBuilding setting result))
        (ItemStore.Call.change (update.withValues values)
          ((update.withValues values).whileBuilding setting otherResult)) := by
    rw [same, whileBuilding_withValues]
    exact change_withValues (forall_whileBuilding_eq_ok kept) agree
  cases call with
  | table name =>
      rw [step_table, step_table]
      refine changes ?_ (ItemStore.Call.forall_map_eq_ok fun _ _ => rfl)
      cases Address.table name <;> rfl
  | key pairs =>
      rw [step_key, step_key]
      refine changes ?_ (ItemStore.Call.forall_map_eq_ok fun _ _ => rfl)
      cases Address.key pairs <;> rfl
  | mark attrs =>
      rw [step_mark, step_mark]
      exact changes rfl (ItemStore.Call.forall_ok_eq_ok rfl)
  | disableStamp audit =>
      rw [step_disableStamp, step_disableStamp]
      refine changes ?_ (ItemStore.Call.forall_ok_eq_ok ?_) <;> cases audit <;> rfl
  | stamp audit stamp =>
      rw [step_stamp, step_stamp]
      refine changes ?_ (ItemStore.Call.forall_map_eq_ok fun _ _ => ?_)
      · cases stamp.checked audit <;> cases audit <;> rfl
      · cases audit <;> rfl
  | lock revision =>
      cases revision with
      | none => exact ⟨.done, similar_withValues agree⟩
      | some revision => exact ⟨.done, similar_lock regular agree revision⟩
  | merge payload => exact ⟨.done, similar_merge regular agree (reads payload rfl)⟩
  | mergeDocument document =>
      rw [step_mergeDocument, step_mergeDocument]
      rw [Call.effect] at reads
      cases made : Payload.ofDocument document with
      | ok payload =>
          rw [made] at reads
          exact ⟨.done, similar_merge regular agree (reads payload rfl)⟩
      | error refusal => exact ⟨.refused refusal, similar_withValues agree⟩
  | fragment kind text =>
      rw [step_of_fragments rfl, step_of_fragments rfl]
      exact ⟨.done, rfl, agree⟩
  | removeAll texts =>
      rw [step_of_fragments rfl, step_of_fragments rfl]
      exact ⟨.done, rfl, agree⟩
  | names pairs => exact ⟨.done, rfl, agree⟩
  | values pairs => exact ⟨.done, rfl, agree.insertAll pairs⟩
  | condition expression connective =>
      rw [step_condition, step_condition]
      split
      · exact ⟨.refused _, similar_withValues agree⟩
      · exact ⟨.done, rfl, agree⟩
  | returnValues choice => exact ⟨.done, rfl, agree⟩
  | metrics choice => exact ⟨.done, rfl, agree⟩
  | capacity choice => exact ⟨.done, rfl, agree⟩
  | request => exact ⟨.request (similar_withValues agree).request, rfl, agree⟩
  | execute =>
      rw [Update.step, Update.step, client]
      exact ⟨.answer _ (similar_withValues agree).request, rfl, agree⟩

/-! ### Runs -/

/-- Whether two calls are the same and find the same client. What the clock says may differ. -/
structure SameButClock (here there : World × Call) : Prop where
  call : there.2 = here.2
  client : there.1.client = here.1.client

/-- Whether the clock is read for a timestamp, if a payload is the first one that is taken. -/
structure Taking.ReadsClock (taking : Taking) (audit : Audit) : Prop where
  brings : taking.brings audit = true
  unset : (taking.update.plan audit).text = none

/-- Up to the first payload, and from there on, the clock is read for no other timestamps. -/
theorem similar_run (same : List.Forall₂ SameButClock calls others)
    (similar : Similar loose update other) (regular : update.placeholders.Regular)
    (reads : update.merged = false → ∀ taking, update.firstTaking? calls = some taking →
      ∀ audit, taking.ReadsClock audit → loose audit) :
    List.Forall₂ (ResultsAgreeBut loose) (update.run calls).1 (other.run others).1 := by
  induction same generalizing update other with
  | nil => exact .nil
  | @cons here there calls others first rest ih =>
      have does := step_does here.1 update here.2
      have steps : StepsAgreeBut loose (update.step here.1 here.2)
          (other.step there.1 there.2) := by
        rw [first.call]
        refine similar.step regular first.client here.2 fun payload taken audit due unset => ?_
        rw [isPending, Bool.and_eq_true, Bool.and_eq_true, Bool.not_eq_true'] at due
        refine reads due.1.2 _ (firstTaking?_cons_of_merge taken calls) audit ⟨?_, unset⟩
        rw [Taking.brings, Bool.and_eq_true]
        exact ⟨due.1.1, due.2⟩
      have later : (update.step here.1 here.2).2.merged = false → ∀ taking,
          (update.step here.1 here.2).2.firstTaking? calls = some taking →
            ∀ audit, taking.ReadsClock audit → loose audit := by
        intro merged taking found
        have unmerged : update.merged = false := by
          rw [← Bool.not_eq_true]
          intro before
          rw [does.merged_of_merged before] at merged
          cases merged
        have passed : ∀ payload, here.2.effect ≠ .merge payload := by
          intro payload taken
          rw [taken] at does
          rw [does] at merged
          cases merged
        exact reads unmerged taking ((firstTaking?_cons_of_ne passed calls).trans found)
      exact .cons steps.result (ih steps.similar (does.regular regular) later)

/--
Under two clocks, whatever each says at each reading, every call of a run comes back with the same:
it is refused for the same reason or not at all, and its request is the same but for the values at
`:createdAt` and `:updatedAt`. These are the same too if, when the first payload is taken, each
timestamp is disabled, has a given text, or is an attribute of that payload.
-/
theorem results_agree {settings : Settings} {table : String} {key : List (String × Value)}
    (started : Update.start settings table key = .ok update)
    (same : List.Forall₂ SameButClock calls others) :
    List.Forall₂ (ResultsAgreeBut fun _ => True) (update.run calls).1 (update.run others).1 ∧
    ((∀ taking, update.firstTaking? calls = some taking → ∀ audit,
        (taking.update.plan audit).enabled = false ∨ (taking.update.plan audit).text.isSome ∨
          audit.attr ∈ taking.payload.attrs) →
      (update.run others).1 = (update.run calls).1) := by
  have regular : update.placeholders.Regular :=
    (fresh_of_start started).placeholders ▸ Placeholders.regular_start
  refine ⟨similar_run same (.refl _ update) regular fun _ _ _ _ _ => trivial, fun settled => ?_⟩
  have agree : List.Forall₂ (ResultsAgreeBut fun _ => False) (update.run calls).1
      (update.run others).1 := by
    refine similar_run same (.refl _ update) regular fun _ taking found audit reads => ?_
    have brings := reads.brings
    rw [Taking.brings, Bool.and_eq_true, Bool.not_eq_true', List.contains_eq_mem,
      decide_eq_false_iff_not] at brings
    rcases settled taking found audit with disabled | given | supplied
    · rw [brings.1] at disabled
      cases disabled
    · rw [reads.unset] at given
      cases given
    · exact brings.2 supplied
  exact (List.forall₂_eq_eq_eq ▸ agree.imp fun _ _ h => (h.eq fun _ => id).symm :
    (update.run calls).1 = (update.run others).1).symm

/-- Another clock than the default one. -/
def laterClock : Clock := fun _ => { Instant.epoch with seconds := 1 }

/-- Calls whose first payload has one of the timestamps, while a text is given for the other. -/
def datedCalls (clock : Clock) : List (World × Call) :=
  [.stamp .created (.text "2024-01-01T00:00:00.000Z"), .mergeDocument (.ok .null),
    .merge [("updatedAt", .null), ("created-At", .null)], .execute,
    .merge [("createdAt", .text "x")], .request].map (⟨clock, .echo⟩, ·)

theorem results_agree_of_datedCalls :
    ∃ update, Update.start {} "t" [("id", .text "1")] = .ok update ∧
      List.Forall₂ SameButClock (datedCalls default) (datedCalls laterClock) ∧
      List.Forall₂ (ResultsAgreeBut fun _ => True) (update.run (datedCalls default)).1
        (update.run (datedCalls laterClock)).1 ∧
      (update.run (datedCalls laterClock)).1 = (update.run (datedCalls default)).1 := by
  have started : Update.start {} "t" [("id", .text "1")] = .ok _ := rfl
  have same : List.Forall₂ SameButClock (datedCalls default) (datedCalls laterClock) :=
    List.forall₂_map_left_iff.2 <| List.forall₂_map_right_iff.2 <|
      List.forall₂_same.2 fun _ _ => ⟨rfl, rfl⟩
  obtain ⟨agree, settled⟩ := results_agree started same
  refine ⟨_, started, same, agree, settled fun taking found audit => ?_⟩
  obtain rfl := Option.some.inj found
  cases audit with
  | created => exact .inr (.inl rfl)
  | updated => exact .inr (.inr (by decide))

end ItemStore.Update
