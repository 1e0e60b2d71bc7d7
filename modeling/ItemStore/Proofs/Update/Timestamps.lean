import Mathlib
import ItemStore.Proofs.Update.Overlap

/-!
# ItemStore.Proofs.Update.Timestamps

Timestamps: they come with the first payload that is taken, and with no other.

What the first payload brings along is decided when it is taken (`Taking.stamp?`). Beyond that a
timestamp is an attribute like any other: in the history stand the stamp of the first payload, if it
brings one, and then what payloads contribute (`filter_history_audit`).
-/

namespace ItemStore

open Expression (Clauses Form Placeholders isAlphanumeric namePlaceholder valuePlaceholder)

namespace Update

variable {update changed : Update} {world : World} {calls : List (World × Call)}

/-! ### Attributes whose placeholders are known -/

namespace Records

variable {own : Part → Prop} {ws : List Write}

/-- A fragment with the plain body of an attribute makes an assignment just of that attribute. -/
theorem text_eq_iff (h : update.Records own ws) {a b : Assignment}
    (alphanumeric : isAlphanumeric a.attr = true) (mem : b ∈ ws.map Write.assignment) :
    update.placeholders.text b = a.form.text a.attr ↔ b = a := by
  obtain ⟨w, among, rfl⟩ := List.mem_map.1 mem
  obtain ⟨body, has⟩ := h.body_iff.2 ⟨w, among, rfl⟩
  -- The attribute may still lack its body; it has it once it is looked up.
  have sound := h.regular.sound.body a.attr
  have plain := h.regular.find?_body alphanumeric
  have kept : (update.placeholders.body a.attr).2.bodies.find? w.assignment.attr = some body :=
    Placeholders.find?_body_of_find? has a.attr
  have text : (update.placeholders.body a.attr).2.text a = a.form.text a.attr :=
    Placeholders.text_of_find? plain
  rw [← Placeholders.text_body has a.attr, ← text]
  exact ⟨fun eq => sound.text_injective kept plain eq, fun eq => by rw [eq]⟩

/-- The SET clause makes an assignment once if it has been made, and else never. -/
theorem count_text (h : update.Records own ws) (mine : own (.clause .set)) {a : Assignment}
    (alphanumeric : isAlphanumeric a.attr = true) :
    update.clauses.set.count (a.form.text a.attr) = if a ∈ ws.map Write.assignment then 1 else 0 := by
  have same : ∀ b ∈ (ws.map Write.assignment).eraseDups,
      (update.placeholders.text b == a.form.text a.attr) = (b == a) := by
    intro b mem
    rw [Bool.eq_iff_iff, beq_iff_eq, beq_iff_eq]
    exact h.text_eq_iff alphanumeric (List.mem_eraseDups.1 mem)
  have counted : update.clauses.set.count (a.form.text a.attr) =
      (ws.map Write.assignment).eraseDups.count a := by
    rw [h.set mine, List.count, List.countP_map, List.count]
    exact List.countP_congr fun b mem => by rw [Function.comp_apply, same b mem]
  rw [counted]
  split
  · rename_i mem
    exact List.count_eq_one_of_mem (nodup_eraseDups _) (List.mem_eraseDups.2 mem)
  · rename_i absent
    exact List.count_eq_zero_of_not_mem (mt List.mem_eraseDups.1 absent)

/-- The plain placeholder of an attribute stands for the last value of the attribute. -/
theorem find?_value (h : update.Records own ws) (mine : own .values) {attr : String}
    (alphanumeric : isAlphanumeric attr = true) :
    update.values.find? (valuePlaceholder attr) = lastValue? ws attr := by
  have ne : valuePlaceholder attr ≠ valuePlaceholder incrementBody := by
    intro eq
    rw [Expression.Sigil.value.placeholder_injective eq] at alphanumeric
    exact absurd alphanumeric (by decide)
  -- The attribute may still lack its body; it has it once it is looked up.
  have sound := h.regular.sound.body attr
  have plain := h.regular.find?_body alphanumeric
  refine Option.ext fun value => ?_
  rw [h.values mine, or_iff_left fun one => ne one.2.1]
  constructor
  · intro stands
    obtain ⟨other, body, has, eq, last⟩ := stands
    rw [← Expression.Sigil.value.placeholder_injective eq] at has
    rwa [sound.distinct (Placeholders.find?_body_of_find? has attr) plain] at last
  · intro last
    obtain ⟨body, has⟩ := h.body_iff.2 (exists_lastValue?_iff.1 ⟨value, last⟩)
    have kept := Placeholders.find?_body_of_find? has attr
    obtain rfl := Option.some.inj (kept.symm.trans plain)
    exact ⟨body, body, has, rfl, last⟩

end Records

/-! ### The first payload -/

/-- A payload that is taken, with what it finds. -/
structure Taking where
  update : Update
  clock : Clock
  payload : Payload

/-- The first payload that is taken in a run. A document that is refused is none. -/
def firstTaking? : Update → List (World × Call) → Option Taking
  | _, [] => none
  | update, call :: rest =>
      match call.2.effect with
      | .merge payload => some ⟨update, call.1.clock, payload⟩
      | _ => (update.step call.1 call.2).2.firstTaking? rest

/-- Whether a payload brings a timestamp along, if it is the first one that is taken. -/
def Taking.brings (taking : Taking) (audit : Audit) : Bool :=
  (taking.update.plan audit).enabled && !taking.payload.attrs.contains audit.attr

/-- The value of the timestamp that a payload brings along, if it is the first one. -/
def Taking.stamp? (taking : Taking) (audit : Audit) : Option Value :=
  if taking.brings audit then some (taking.update.stampValue taking.clock audit) else none

theorem firstTaking?_cons_of_merge {call : World × Call} {payload : Payload}
    (taken : call.2.effect = .merge payload) (rest : List (World × Call)) :
    update.firstTaking? (call :: rest) = some ⟨update, call.1.clock, payload⟩ := by
  rw [firstTaking?, taken]

theorem firstTaking?_cons_of_ne {call : World × Call}
    (none : ∀ payload, call.2.effect ≠ .merge payload) (rest : List (World × Call)) :
    update.firstTaking? (call :: rest) = (update.step call.1 call.2).2.firstTaking? rest := by
  rw [firstTaking?]
  split
  · rename_i payload taken
    exact absurd taken (none payload)
  · rfl

/-- The first payload stays the first when further calls come. -/
theorem firstTaking?_append_of_some {taking : Taking} (h : update.firstTaking? calls = some taking)
    (more : List (World × Call)) : update.firstTaking? (calls ++ more) = some taking := by
  induction calls generalizing update with
  | nil => cases h
  | cons call rest ih =>
      rw [List.cons_append]
      unfold firstTaking? at h ⊢
      split at h
      · exact h
      · exact ih h

/-- The stamp that the first payload of a run writes. -/
def stampWriteOf? (audit : Audit) (taking : Taking) : Option Write :=
  taking.update.stampWrite? taking.clock taking.payload audit

theorem stampWrite?_of_merged (merged : update.merged = true) (clock : Clock) (payload : Payload)
    (audit : Audit) : update.stampWrite? clock payload audit = none := by
  rw [stampWrite?, isPending, merged]
  simp

/-- Once a payload has been taken, none brings a timestamp along. -/
theorem bind_firstTaking?_of_merged (merged : update.merged = true) (calls : List (World × Call))
    (audit : Audit) : (update.firstTaking? calls).bind (stampWriteOf? audit) = none := by
  induction calls generalizing update with
  | nil => rfl
  | cons call rest ih =>
      have kept := (step_does call.1 update call.2).merged_of_merged merged
      unfold firstTaking?
      split
      · exact stampWrite?_of_merged merged _ _ audit
      · exact ih kept

/-- Until then, the first payload that is taken finds that none has been. -/
theorem merged_firstTaking? (merged : update.merged = false) {taking : Taking}
    (h : update.firstTaking? calls = some taking) : taking.update.merged = false := by
  induction calls generalizing update with
  | nil => cases h
  | cons call rest ih =>
      unfold firstTaking? at h
      split at h
      · obtain rfl := Option.some.inj h
        exact merged
      · rename_i other
        have kept := (step_does call.1 update call.2).merged_eq other
        exact ih (kept.trans merged) h

/-- The stamp of a payload is written if none has been taken before, and the payload brings it. -/
theorem stampWriteOf?_eq {taking : Taking} (first : taking.update.merged = false) (audit : Audit) :
    stampWriteOf? audit taking =
      (taking.stamp? audit).map fun value => ⟨audit.form, audit.attr, value⟩ := by
  have due : taking.update.isPending audit taking.payload = taking.brings audit := by
    rw [isPending, first, Bool.not_false, Bool.and_true, Taking.brings]
  rw [stampWriteOf?, stampWrite?, due, Taking.stamp?]
  split <;> rfl

/-! ### The writes of a timestamp -/

theorem attr_audit_ne_revision (audit : Audit) : audit.attr ≠ revisionAttr := by
  cases audit <;> decide

/-- A payload writes a timestamp that is due, and else what it contributes to it. -/
theorem filter_writes_audit (update : Update) (clock : Clock) (payload : Payload) (audit : Audit) :
    (update.writes clock payload).filter (fun w => w.attr = audit.attr) =
      (update.stampWrite? clock payload audit).toList ++
        ((update.contributed payload).filter fun c => c.1 = audit.attr).map contributionWrite := by
  have entries : (update.entryWrites payload).filter (fun w => w.attr = audit.attr) =
      ((update.contributed payload).filter fun c => c.1 = audit.attr).map contributionWrite :=
    @filter_entryWrites (fun attr => attr = audit.attr)
      (decide_eq_false (attr_audit_ne_revision audit).symm) update payload
  have own : ∀ other, (update.stampWrite? clock payload other).toList.filter
      (fun w => w.attr = audit.attr) =
        if other = audit then (update.stampWrite? clock payload audit).toList else [] := by
    intro other
    unfold stampWrite?
    cases other <;> cases audit <;> split <;> simp [Audit.attr]
  have stamps : ((update.stampWrite? clock payload .created).toList ++
      (update.stampWrite? clock payload .updated).toList).filter (fun w => w.attr = audit.attr) =
        (update.stampWrite? clock payload audit).toList := by
    rw [List.filter_append, own, own]
    cases audit <;> simp
  rw [writes, List.append_assoc, List.filter_append, entries, stamps]
  cases due : update.stampWrite? clock payload audit with
  | none => rw [Option.toList_none, List.append_nil, List.nil_append]
  | some w =>
      -- The payload has no such entry, or else the timestamp would not be due.
      have lacks := (mem_stampWrite?_iff.1 due).1
      rw [isPending, Bool.and_eq_true, Bool.not_eq_true', List.contains_eq_mem,
        decide_eq_false_iff_not] at lacks
      have none : (update.contributed payload).filter (fun c => c.1 = audit.attr) = [] := by
        refine List.filter_eq_nil_iff.2 fun c mem eq => lacks.2 ?_
        rw [← of_decide_eq_true eq]
        exact (mem_contributed_iff.1 (List.mem_map_of_mem mem)).1
      rw [none, List.map_nil, List.append_nil, List.nil_append]

/-- Of a timestamp the history has the stamp of the first payload, and then the contributions. -/
theorem filter_history_audit (update : Update) (calls : List (World × Call)) (audit : Audit) :
    (update.history calls).filter (fun w => w.attr = audit.attr) =
      ((update.firstTaking? calls).bind (stampWriteOf? audit)).toList ++
        ((update.contributions calls).filter fun c => c.1 = audit.attr).map contributionWrite := by
  induction calls generalizing update with
  | nil => rfl
  | cons call rest ih =>
      rw [history, contributions, List.filter_append, List.filter_append, List.map_append, ih]
      rcases call.2.payload_cases with taken | ⟨empty, none⟩
      · have does := step_does call.1 update call.2
        rw [taken] at does
        have merged : (update.step call.1 call.2).2.merged = true := by
          rw [does]
          rfl
        rw [bind_firstTaking?_of_merged merged, firstTaking?_cons_of_merge taken, taken]
        show List.filter _ (update.writes _ _) ++ _ = _
        rw [filter_writes_audit, Option.toList_none, List.nil_append, List.append_assoc]
        rfl
      · have writes : (call.2.effect.writes call.1 update).filter
            (fun w => w.attr = audit.attr) = [] := by
          refine List.filter_eq_nil_iff.2 fun w mem eq => ?_
          rcases mem_effect_writes mem with ⟨revision, -, rfl⟩ | ⟨payload, is, -⟩
          · exact attr_audit_ne_revision audit (of_decide_eq_true eq).symm
          · exact none payload is
        rw [writes, empty, firstTaking?_cons_of_ne none]
        rfl

section Started

variable (start : update.merged = false) (calls : List (World × Call)) (audit : Audit)
include start

theorem bind_firstTaking?_eq :
    (update.firstTaking? calls).bind (stampWriteOf? audit) =
      ((update.firstTaking? calls).bind (·.stamp? audit)).map fun value =>
        ⟨audit.form, audit.attr, value⟩ := by
  cases first : update.firstTaking? calls with
  | none => rfl
  | some taking => exact stampWriteOf?_eq (merged_firstTaking? start first) audit

/-- A timestamp has the last value contributed to it, or else that of the first payload. -/
theorem lastValue?_history_audit :
    lastValue? (update.history calls) audit.attr =
      (lastContribution? (update.contributions calls) audit.attr).or
        ((update.firstTaking? calls).bind (·.stamp? audit)) := by
  rw [lastValue?, filter_history_audit, bind_firstTaking?_eq start, List.getLast?_append,
    List.getLast?_map, lastContribution?]
  cases (update.firstTaking? calls).bind (·.stamp? audit) <;>
    cases ((update.contributions calls).filter fun c => c.1 = audit.attr).getLast? <;> rfl

/-- A timestamp is assigned in its own form by the first payload, and plainly by contributions. -/
theorem mem_assignments_audit_iff (form : Form) :
    (⟨form, audit.attr⟩ : Assignment) ∈ (update.history calls).map Write.assignment ↔
      (form = audit.form ∧ (update.firstTaking? calls).any (·.brings audit) = true) ∨
      (form = .plain ∧ audit.attr ∈ (update.contributions calls).map Prod.fst) := by
  have brings : (update.firstTaking? calls).any (·.brings audit) = true ↔
      ∃ value, (update.firstTaking? calls).bind (·.stamp? audit) = some value := by
    cases update.firstTaking? calls <;> simp [Taking.stamp?]
  have filtered : (⟨form, audit.attr⟩ : Assignment) ∈ (update.history calls).map Write.assignment ↔
      ∃ w ∈ (update.history calls).filter (fun w => w.attr = audit.attr), w.form = form := by
    simp only [List.mem_map, List.mem_filter, Write.assignment, Assignment.mk.injEq,
      decide_eq_true_eq]
    exact exists_congr fun w => by rw [and_assoc, and_comm (a := w.form = form)]
  rw [filtered, filter_history_audit, bind_firstTaking?_eq start, brings]
  simp only [List.mem_append, Option.mem_toList, Option.map_eq_some_iff,
    List.mem_map, List.mem_filter, decide_eq_true_eq, or_and_right, exists_or]
  refine or_congr ⟨fun stamp => ?_, fun stamp => ?_⟩ ⟨fun plain => ?_, fun plain => ?_⟩
  · obtain ⟨w, ⟨value, is, rfl⟩, rfl⟩ := stamp
    exact ⟨rfl, value, is⟩
  · obtain ⟨rfl, value, is⟩ := stamp
    exact ⟨_, ⟨value, is, rfl⟩, rfl⟩
  · obtain ⟨w, ⟨c, ⟨mem, eq⟩, rfl⟩, rfl⟩ := plain
    exact ⟨rfl, c, mem, eq⟩
  · obtain ⟨rfl, c, mem, eq⟩ := plain
    exact ⟨_, ⟨c, ⟨mem, eq⟩, rfl⟩, rfl⟩

end Started

/-! ### Runs -/

/-- The fragment by which a payload brings the time of creation along. -/
def createdFragment : String := "#createdAt = if_not_exists(#createdAt, :createdAt)"

/-- The fragment that assigns the time of the update. -/
def updatedFragment : String := "#updatedAt = :updatedAt"

theorem createdFragment_eq : createdFragment = Form.ifAbsent.text Audit.created.attr := by decide

theorem updatedFragment_eq : updatedFragment = Form.plain.text Audit.updated.attr := by decide

/--
Whether a request has the timestamps that the first payload brings along and that payloads
contribute.
-/
structure Stamped (request : UpdateRequest) (clauses : Clauses) (first : Option Taking)
    (cs : List (String × Value)) : Prop where
  /-- The clauses are those of the update expression. -/
  text : request.update = clauses.expression?
  /-- The time of creation is assigned unless it is there, just if the first payload brings it. -/
  created : clauses.set.count createdFragment = if first.any (·.brings .created) then 1 else 0
  /-- The time of the update is assigned if the first payload brings it, or one contributes it. -/
  updated : clauses.set.count updatedFragment =
    if first.any (·.brings .updated) ∨ Audit.updated.attr ∈ cs.map Prod.fst then 1 else 0
  /-- Their values are the last ones contributed, or else those of the first payload. -/
  values : ∀ audit, request.values.find? (":" ++ audit.attr) =
    (lastContribution? cs audit.attr).or (first.bind (·.stamp? audit))

theorem Records.stamped {own : Part → Prop} (start : update.merged = false)
    (h : (update.run calls).2.Records own (update.history calls)) (mine : own (.clause .set))
    (mineValues : own .values) :
    Stamped (update.run calls).2.request (update.run calls).2.clauses
      (update.firstTaking? calls) (update.contributions calls) := by
  have counts : ∀ form audit, (update.run calls).2.clauses.set.count (form.text audit.attr) =
      if (form = audit.form ∧ (update.firstTaking? calls).any (·.brings audit) = true) ∨
        (form = .plain ∧ audit.attr ∈ (update.contributions calls).map Prod.fst) then 1 else 0 := by
    intro form audit
    rw [h.count_text (a := ⟨form, audit.attr⟩) mine audit.isAlphanumeric_attr]
    simp only [mem_assignments_audit_iff start]
  refine ⟨rfl, ?_, ?_, fun audit => ?_⟩
  · rw [createdFragment_eq, counts]
    exact if_congr (by simp [Audit.form]) rfl rfl
  · rw [updatedFragment_eq, counts]
    exact if_congr (by simp [Audit.form]) rfl rfl
  · exact (h.find?_value mineValues audit.isAlphanumeric_attr).trans
      (lastValue?_history_audit start calls audit)

/--
In a run without SET fragments and values of the caller's own, timestamps come with the first
payload, each if it is enabled then and the payload has no such entry; the time of the update is
also assigned if a payload contributes it. Each is assigned once. Whatever is called once a payload
has been taken, the time of creation is neither added nor removed any more.
-/
theorem stamped_run {settings : Settings} {table : String} {key : List (String × Value)}
    (started : Update.start settings table key = .ok update)
    (generated : ∀ call ∈ calls, call.2.part? ∉ [some (.clause .set), some .values]) :
    Stamped (update.run calls).2.request (update.run calls).2.clauses
      (update.firstTaking? calls) (update.contributions calls) ∧
    ∀ before after taking, calls = before ++ after → update.firstTaking? before = some taking →
      update.firstTaking? calls = some taking ∧
        (update.run calls).2.clauses.set.count createdFragment =
          (update.run before).2.clauses.set.count createdFragment := by
  have fresh := fresh_of_start started
  have stamped : ∀ part, (∀ call ∈ part, call ∈ calls) →
      Stamped (update.run part).2.request (update.run part).2.clauses
        (update.firstTaking? part) (update.contributions part) := by
    intro part among
    have records : (update.run part).2.Records
        (fun part => part ∈ [.clause .set, .values]) (update.history part) :=
      records_run fresh.records fun call mem part of mine =>
        generated call (among call mem) (of ▸ List.mem_map_of_mem (f := some) mine)
    exact records.stamped fresh.merged (by decide) (by decide)
  refine ⟨stamped calls fun _ => id, ?_⟩
  intro before after taking split first
  have kept : update.firstTaking? calls = some taking := by
    rw [split]
    exact firstTaking?_append_of_some first after
  refine ⟨kept, ?_⟩
  rw [(stamped calls fun _ => id).created, (stamped before ?_).created, kept, first]
  intro call mem
  rw [split]
  exact List.mem_append_left _ mem

/-- A refused document, an empty payload with the time of creation as it is given, and changes. -/
def openingCalls : List (World × Call) :=
  [(default, .disableStamp .updated), (default, .mergeDocument (.ok .null)),
    (default, .stamp .created (.text "2024-01-01T00:00:00.000Z")), (default, .merge [])]

/-- Changes of the timestamps behind them, and a payload that contributes one. -/
def laterCalls : List (World × Call) :=
  [(default, .disableStamp .created), (default, .names [("#a", "b")]),
    (default, .stamp .updated (.text "2024-01-02T00:00:00.000Z")),
    (default, .merge [("updatedAt", .text "z")])]

theorem stamped_run_of_laterCalls :
    ∃ update, Update.start {} "t" [("id", .text "1")] = .ok update ∧
      (∀ call ∈ openingCalls ++ laterCalls,
        call.2.part? ∉ [some (.clause .set), some .values]) ∧
      Stamped (update.run (openingCalls ++ laterCalls)).2.request
        (update.run (openingCalls ++ laterCalls)).2.clauses
        (update.firstTaking? (openingCalls ++ laterCalls))
        (update.contributions (openingCalls ++ laterCalls)) ∧
      (update.run (openingCalls ++ laterCalls)).2.clauses.set.count createdFragment = 1 ∧
      (update.run (openingCalls ++ laterCalls)).2.values.find? ":createdAt" =
        some (.text "2024-01-01T00:00:00.000Z") := by
  have started : Update.start {} "t" [("id", .text "1")] = .ok _ := rfl
  have generated : ∀ call ∈ openingCalls ++ laterCalls,
      call.2.part? ∉ [some (.clause .set), some .values] := by decide
  obtain ⟨stamped, stays⟩ := stamped_run started generated
  refine ⟨_, started, generated, stamped, ?_, by decide +kernel⟩
  rw [(stays openingCalls laterCalls _ rfl rfl).2]
  decide +kernel

end Update

end ItemStore
