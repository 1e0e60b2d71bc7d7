import Mathlib
import ItemStore.Proofs.Update.Meaning

/-!
# ItemStore.Proofs.Update.Overlap

Overlapping paths: a store rejects an update expression that assigns one attribute twice.

An update never adds a fragment that it has already, so an attribute that is written in one form is
assigned once (`assignsOnce_iff_forms`). Two attributes are written in two forms:

* the revision, which a lock increments and a payload may assign before the lock;
* the time of creation, which is assigned unless it is there when a payload brings it along, and
  plainly when a payload has it itself.

So where no payload has the revision before the lock, everything hangs on the time of creation.
-/

namespace ItemStore.Update

open Expression (Form assigned?)

variable {update : Update} {calls : List (World × Call)}

/-! ### Assigning once -/

/-- Whether no attribute is assigned by two of some fragments, as the names resolve them. -/
def AssignsOnce (names : NameMap String) (fragments : List String) : Prop :=
  (fragments.filterMap (assigned? names)).Nodup

instance (names : NameMap String) (fragments : List String) :
    Decidable (AssignsOnce names fragments) :=
  inferInstanceAs (Decidable (List.Nodup _))

theorem nodup_map_eraseDups_iff {α β : Type} [DecidableEq α] {f : α → β} {l : List α} :
    (l.eraseDups.map f).Nodup ↔ ∀ a ∈ l, ∀ b ∈ l, f a = f b → a = b := by
  rw [List.nodup_map_iff_inj_on (nodup_eraseDups l)]
  simp only [List.mem_eraseDups]

/-- Attributes are assigned once if they are always written in the same form. -/
theorem Records.assignsOnce_iff_forms {own : Part → Prop} {ws : List Write}
    (h : update.Records own ws) (mine : own (.clause .set)) (mineNames : own .names) :
    AssignsOnce update.names update.clauses.set ↔
      ∀ w ∈ ws, ∀ other ∈ ws, w.attr = other.attr → w.form = other.form := by
  rw [AssignsOnce, h.filterMap_assigned?_set mine mineNames, nodup_map_eraseDups_iff]
  simp only [List.forall_mem_map, Write.assignment, Assignment.mk.injEq]
  constructor
  · intro inj w mem other mem' eq
    exact (inj w mem other mem' eq).1
  · intro form w mem other mem' eq
    exact ⟨form w mem other mem' eq, eq⟩

/-! ### The forms of writes -/

/-- Of what a payload writes, the time of creation alone may be assigned if it is absent. -/
theorem isPending_of_form_ifAbsent {clock : Clock} {payload : Payload} {w : Write}
    (mem : w ∈ update.writes clock payload) (form : w.form = .ifAbsent) :
    w.attr = Audit.created.attr ∧ update.isPending .created payload = true := by
  rcases mem_writes_iff.1 mem with mem | ⟨audit, mem⟩
  · obtain ⟨entry, -, -, rfl⟩ := mem_entryWrites_iff.1 mem
    cases form
  · obtain ⟨pending, rfl⟩ := mem_stampWrite?_iff.1 mem
    cases audit with
    | created => exact ⟨rfl, pending⟩
    | updated => cases form

/-- What is assigned plainly comes from an entry, but for the time of the update. -/
theorem exists_entry_of_form_plain {clock : Clock} {payload : Payload} {w : Write}
    (mem : w ∈ update.writes clock payload) (form : w.form = .plain)
    (ne : w.attr ≠ Audit.updated.attr) :
    ∃ entry ∈ payload, entry.1 = w.attr ∧ update.admits w.attr = true := by
  rcases mem_writes_iff.1 mem with mem | ⟨audit, mem⟩
  · obtain ⟨entry, among, admitted, rfl⟩ := mem_entryWrites_iff.1 mem
    exact ⟨entry, among, rfl, admitted⟩
  · obtain ⟨-, rfl⟩ := mem_stampWrite?_iff.1 mem
    cases audit with
    | created => cases form
    | updated => exact absurd rfl ne

theorem mem_contributed_iff {payload : Payload} {attr : String} :
    attr ∈ (update.contributed payload).map Prod.fst ↔
      attr ∈ payload.attrs ∧ attr.isEmpty = false ∧ update.key.contains attr = false := by
  unfold contributed Payload.attrs
  rw [List.map_map, List.mem_map, List.mem_map]
  simp only [List.mem_filter, Bool.and_eq_true, Bool.not_eq_true', Function.comp_apply]
  constructor
  · rintro ⟨entry, ⟨mem, admitted⟩, rfl⟩
    exact ⟨⟨entry, mem, rfl⟩, admitted⟩
  · rintro ⟨⟨entry, mem, rfl⟩, admitted⟩
    exact ⟨entry, ⟨mem, admitted⟩, rfl⟩

/-- A payload assigns the time of creation plainly if it contributes it. -/
theorem exists_plain_created_writes_iff {clock : Clock} {payload : Payload} :
    (∃ w ∈ update.writes clock payload, w.form = .plain ∧ w.attr = Audit.created.attr) ↔
      Audit.created.attr ∈ (update.contributed payload).map Prod.fst := by
  have admits : update.admits Audit.created.attr = true ↔
      Audit.created.attr.isEmpty = false ∧ update.key.contains Audit.created.attr = false := by
    have ne : (Audit.created.attr == revisionAttr) = false := by decide
    simp [Update.admits, ne]
  rw [mem_contributed_iff, ← admits]
  constructor
  · rintro ⟨w, mem, form, attr⟩
    have ne : w.attr ≠ Audit.updated.attr := by
      rw [attr]
      decide
    obtain ⟨entry, among, eq, admitted⟩ := exists_entry_of_form_plain mem form ne
    rw [attr] at eq admitted
    exact ⟨eq ▸ List.mem_map_of_mem among, admitted⟩
  · rintro ⟨mem, admitted⟩
    obtain ⟨entry, among, eq⟩ := List.mem_map.1 mem
    rw [← eq] at admitted
    have written := mem_entryWrites_iff.2 ⟨entry, among, admitted, rfl⟩
    exact ⟨_, mem_writes_iff.2 (.inl written), rfl, eq⟩

/-- A call takes a payload by its effect, or has none. -/
theorem Call.payload_cases (call : Call) :
    call.effect = .merge call.payload ∨
      call.payload = [] ∧ ∀ payload, call.effect ≠ .merge payload := by
  cases call with
  | merge payload => exact .inl rfl
  | mergeDocument document =>
      rw [Call.effect, Call.payload]
      cases Payload.ofDocument document with
      | ok payload => exact .inl rfl
      | error refusal => simp
  | lock revision => cases revision <;> simp [Call.effect, Call.payload]
  | condition expression connective =>
      rw [Call.effect]
      split <;> simp [Call.payload]
  | _ => simp [Call.effect, Call.payload]

/-- A run assigns the time of creation plainly if its payloads contribute it. -/
theorem exists_plain_created_history_iff (update : Update) (calls : List (World × Call)) :
    (∃ w ∈ update.history calls, w.form = .plain ∧ w.attr = Audit.created.attr) ↔
      Audit.created.attr ∈ (update.contributions calls).map Prod.fst := by
  induction calls generalizing update with
  | nil => simp [history, contributions]
  | cons call rest ih =>
      have own : (∃ w ∈ call.2.effect.writes call.1 update,
          w.form = .plain ∧ w.attr = Audit.created.attr) ↔
            Audit.created.attr ∈ (update.contributed call.2.payload).map Prod.fst := by
        rcases call.2.payload_cases with taken | ⟨empty, none⟩
        · rw [taken]
          exact exists_plain_created_writes_iff
        · rw [empty]
          constructor
          · rintro ⟨w, mem, form, -⟩
            rcases mem_effect_writes mem with ⟨revision, -, rfl⟩ | ⟨payload, eq, -⟩
            · cases form
            · exact absurd eq (none payload)
          · intro mem
            cases mem
      unfold history contributions
      rw [List.map_append, List.mem_append, ← own, ← ih]
      simp only [List.mem_append, or_and_right, exists_or]

/-! ### The revision -/

/-- Whether a call locks the update. -/
def Call.locks : Call → Bool
  | .lock (some _) => true
  | _ => false

theorem Call.locks_iff {call : Call} :
    call.locks = true ↔ ∃ revision, call.effect = .lock revision := by
  cases call with
  | lock revision => cases revision <;> simp [Call.locks, Call.effect]
  | mergeDocument document =>
      rw [Call.effect]
      cases Payload.ofDocument document <;> simp [Call.locks]
  | condition expression connective =>
      rw [Call.effect]
      split <;> simp [Call.locks]
  | _ => simp [Call.locks, Call.effect]

/-- Whether no payload has the revision before the first lock, if there is one. -/
def LocksFirst (calls : List (World × Call)) : Prop :=
  (∃ call ∈ calls, call.2.locks = true) →
    ∀ call ∈ calls.takeWhile fun call => !call.2.locks, revisionAttr ∉ call.2.payload.attrs

instance (calls : List (World × Call)) : Decidable (LocksFirst calls) :=
  inferInstanceAs (Decidable (_ → _))

theorem Does.locked_of_locked {changed : Update} {world : World} {effect : Effect}
    (does : update.Does world effect changed) (h : update.locked = true) :
    changed.locked = true := by
  cases effect with
  | lock revision =>
      obtain rfl := does
      exact locked_lock update revision
  | _ => rw [does.locked_eq (by simp), h]

theorem locked_run_of_locks (locks : ∃ call ∈ calls, call.2.locks = true) :
    (update.run calls).2.locked = true := by
  obtain ⟨call, mem, locks⟩ := locks
  obtain ⟨before, after, rfl⟩ := List.append_of_mem mem
  obtain ⟨revision, effect⟩ := Call.locks_iff.1 locks
  have does := step_does call.1 (update.run before).2 call.2
  rw [effect] at does
  rw [run_append]
  show (((update.run before).2.step call.1 call.2).2.run after).2.locked = true
  rw [does]
  exact run_induction (P := fun update => update.locked = true)
    (fun _ _ _ _ does locked => does.locked_of_locked locked) (locked_lock _ revision)

/-- A run that locks before payloads have the revision writes it by locks only. -/
theorem form_of_locksFirst (first : LocksFirst calls)
    (locks : ∃ call ∈ calls, call.2.locks = true) {w : Write} (mem : w ∈ update.history calls)
    (attr : w.attr = revisionAttr) : w.form = .increment := by
  obtain ⟨before, call, after, rfl, made⟩ := mem_history_iff.1 mem
  rcases mem_effect_writes made with ⟨revision, -, rfl⟩ | ⟨payload, taken, among⟩
  · rfl
  exfalso
  by_cases earlier : ∃ call ∈ before, call.2.locks = true
  · exact attr_ne_revision_of_mem_writes (locked_run_of_locks earlier) among attr
  -- Neither the calls before nor the call itself lock, so its payload may not have the revision.
  have unlocked : ∀ other ∈ before ++ [call], (!other.2.locks) = true := by
    intro other mem
    rw [Bool.not_eq_true', ← Bool.not_eq_true]
    intro locks
    rcases List.mem_append.1 mem with mem | mem
    · exact earlier ⟨other, mem, locks⟩
    · obtain ⟨revision, effect⟩ := Call.locks_iff.1 locks
      rw [← List.mem_singleton.1 mem, effect] at taken
      cases taken
  have absent : revisionAttr ∉ call.2.payload.attrs := by
    refine first locks call ?_
    rw [List.append_cons, List.takeWhile_append_of_pos unlocked]
    exact List.mem_append_left _ (List.mem_append_right _ List.mem_cons_self)
  rcases mem_writes_iff.1 among with among | ⟨audit, stamp⟩
  · obtain ⟨entry, entryMem, -, rfl⟩ := mem_entryWrites_iff.1 among
    have payload : call.2.payload = payload := by
      rcases call.2.payload_cases with eq | ⟨-, none⟩
      · exact Effect.merge.inj (eq.symm.trans taken)
      · exact absurd taken (none payload)
    rw [payload] at absent
    exact absent (attr ▸ List.mem_map_of_mem entryMem)
  · obtain ⟨-, rfl⟩ := mem_stampWrite?_iff.1 stamp
    change audit.attr = revisionAttr at attr
    cases audit <;> simp [Audit.attr, revisionAttr] at attr

/-! ### The time of creation -/

theorem Does.merged_of_merged {changed : Update} {world : World} {effect : Effect}
    (does : update.Does world effect changed) (h : update.merged = true) :
    changed.merged = true := by
  cases effect with
  | merge payload =>
      obtain rfl := does
      rfl
  | _ => rw [does.merged_eq (by simp), h]

/-- Once a payload has been written, no timestamp is due any more. -/
theorem merged_run_of_mem {w : Write} (mem : w ∈ update.history calls) (ne : w.form ≠ .increment) :
    (update.run calls).2.merged = true := by
  obtain ⟨before, call, after, rfl, made⟩ := mem_history_iff.1 mem
  rcases mem_effect_writes made with ⟨revision, -, rfl⟩ | ⟨payload, taken, -⟩
  · exact absurd rfl ne
  rw [run_append]
  show (((update.run before).2.step call.1 call.2).2.run after).2.merged = true
  refine run_induction (P := fun update => update.merged = true)
    (fun _ _ _ _ does merged => does.merged_of_merged merged) ?_
  have does := step_does call.1 (update.run before).2 call.2
  rw [taken] at does
  rw [does]
  rfl

/--
Whether a run assigns the time of creation in both forms: one payload brings it along, and a later
one contributes it.
-/
def CreatesTwice (update : Update) (calls : List (World × Call)) : Prop :=
  ∃ before call after payload, calls = before ++ call :: after ∧
    call.2.effect = .merge payload ∧
    (update.run before).2.isPending .created payload = true ∧
    Audit.created.attr ∈
      ((update.run (before ++ [call])).2.contributions after).map Prod.fst

theorem createsTwice_of_mem {w other : Write} (mem : w ∈ update.history calls)
    (absent : w.form = .ifAbsent) (mem' : other ∈ update.history calls)
    (plain : other.form = .plain) (attr : other.attr = Audit.created.attr) :
    update.CreatesTwice calls := by
  obtain ⟨before, call, after, rfl, made⟩ := mem_history_iff.1 mem
  rcases mem_effect_writes made with ⟨revision, -, rfl⟩ | ⟨payload, taken, among⟩
  · cases absent
  obtain ⟨-, pending⟩ := isPending_of_form_ifAbsent among absent
  have due := pending
  rw [isPending, Bool.and_eq_true, Bool.and_eq_true, Bool.not_eq_true', Bool.not_eq_true'] at due
  obtain ⟨⟨-, first⟩, lacks⟩ := due
  refine ⟨before, call, after, payload, rfl, taken, pending, ?_⟩
  rw [← exists_plain_created_history_iff, run_append]
  -- The plain assignment is made neither before the payload nor by the payload itself.
  rw [history_append, history, List.mem_append, List.mem_append, taken] at mem'
  rcases mem' with earlier | own | later
  · have merged := merged_run_of_mem earlier (by rw [plain]; decide)
    rw [first] at merged
    cases merged
  · obtain ⟨entry, entryMem, eq, -⟩ :=
      exists_entry_of_form_plain own plain (by rw [attr]; decide)
    have has : Audit.created.attr ∈ payload.attrs := attr ▸ eq ▸ List.mem_map_of_mem entryMem
    rw [List.contains_eq_mem, decide_eq_false_iff_not] at lacks
    exact absurd has lacks
  · exact ⟨other, later, plain, attr⟩

/-! ### Runs -/

theorem attr_of_form_ifAbsent {w : Write} (mem : w ∈ update.history calls)
    (form : w.form = .ifAbsent) : w.attr = Audit.created.attr := by
  obtain ⟨before, call, after, rfl, made⟩ := mem_history_iff.1 mem
  rcases mem_effect_writes made with ⟨revision, -, rfl⟩ | ⟨payload, -, among⟩
  · cases form
  · exact (isPending_of_form_ifAbsent among form).1

theorem attr_of_form_increment {w : Write} (mem : w ∈ update.history calls)
    (form : w.form = .increment) :
    w.attr = revisionAttr ∧ ∃ call ∈ calls, call.2.locks = true := by
  obtain ⟨before, call, after, rfl, made⟩ := mem_history_iff.1 mem
  rcases mem_effect_writes made with ⟨revision, effect, rfl⟩ | ⟨payload, -, among⟩
  · exact ⟨rfl, call, by simp, Call.locks_iff.2 ⟨revision, effect⟩⟩
  · exact absurd form (form_ne_increment_of_mem_writes among)

/-- An attribute that is once assigned plainly is always so, if none is assigned in both forms. -/
theorem form_eq_plain (first : LocksFirst calls) (twice : ¬update.CreatesTwice calls)
    {w other : Write} (mem : w ∈ update.history calls) (plain : w.form = .plain)
    (mem' : other ∈ update.history calls) (eq : w.attr = other.attr) : other.form = .plain := by
  cases form : other.form with
  | plain => rfl
  | ifAbsent =>
      have attr := eq.trans (attr_of_form_ifAbsent mem' form)
      exact absurd (createsTwice_of_mem mem' form mem plain attr) twice
  | increment =>
      obtain ⟨attr, locks⟩ := attr_of_form_increment mem' form
      have increment := form_of_locksFirst first locks mem (eq.trans attr)
      rw [plain] at increment
      cases increment

/-- Then writes of one attribute have one form. -/
theorem form_eq_of_attr_eq (first : LocksFirst calls) (twice : ¬update.CreatesTwice calls)
    {w other : Write} (mem : w ∈ update.history calls) (mem' : other ∈ update.history calls)
    (eq : w.attr = other.attr) : w.form = other.form := by
  have ne : Audit.created.attr ≠ revisionAttr := by decide
  cases form : w.form with
  | plain => rw [form_eq_plain first twice mem form mem' eq]
  | ifAbsent =>
      have attr := attr_of_form_ifAbsent mem form
      cases form' : other.form with
      | plain => rw [← form, form_eq_plain first twice mem' form' mem eq.symm]
      | ifAbsent => rfl
      | increment => exact absurd (attr ▸ eq.trans (attr_of_form_increment mem' form').1) ne
  | increment =>
      have attr := (attr_of_form_increment mem form).1
      cases form' : other.form with
      | plain => rw [← form, form_eq_plain first twice mem' form' mem eq.symm]
      | ifAbsent => exact absurd (attr ▸ eq.trans (attr_of_form_ifAbsent mem' form')).symm ne
      | increment => rfl

/--
In a run without SET fragments and names of the caller's own, in which no payload has the revision
before the lock, no two fragments assign one attribute unless the time of creation is assigned in
both forms.
-/
theorem assignsOnce_iff {settings : Settings} {table : String} {key : List (String × Value)}
    (started : start settings table key = .ok update)
    (generated : ∀ call ∈ calls, call.2.part? ∉ [some (.clause .set), some .names])
    (first : LocksFirst calls) :
    (update.run calls).2.request.update = (update.run calls).2.clauses.expression? ∧
      (AssignsOnce (update.run calls).2.request.names (update.run calls).2.clauses.set ↔
        ¬update.CreatesTwice calls) := by
  have records : (update.run calls).2.Records
      (fun part => part ∈ [.clause .set, .names]) (update.history calls) :=
    records_run (fresh_of_start started).records fun call mem part of mine =>
      generated call mem (of ▸ List.mem_map_of_mem (f := some) mine)
  refine ⟨rfl, (records.assignsOnce_iff_forms (by decide) (by decide)).trans ⟨?_, ?_⟩⟩
  · rintro forms ⟨before, call, after, payload, rfl, taken, pending, contributed⟩
    rw [← exists_plain_created_history_iff, run_append] at contributed
    obtain ⟨other, later, plain, attr⟩ := contributed
    have stamp : (⟨.ifAbsent, Audit.created.attr,
        (update.run before).2.stampValue call.1.clock .created⟩ : Write) ∈
          call.2.effect.writes call.1 (update.run before).2 := by
      rw [taken]
      exact mem_writes_iff.2 (.inr ⟨.created, mem_stampWrite?_iff.2 ⟨pending, rfl⟩⟩)
    have mem : other ∈ update.history (before ++ call :: after) := by
      rw [history_append, history]
      exact List.mem_append_right _ (List.mem_append_right _ later)
    have form := forms _ (mem_history_iff.2 ⟨before, call, after, rfl, stamp⟩) other mem attr.symm
    rw [plain] at form
    cases form
  · intro twice w mem other mem' eq
    exact form_eq_of_attr_eq first twice mem mem' eq

/-- A lock before a payload with a revision, and times of creation in both payloads. -/
def suppliedCalls : List (World × Call) :=
  [(default, .lock (some 1)),
    (default, .merge [("createdAt", .text "x"), ("rev", .text "2"), ("a", .null)]),
    (default, .merge [("createdAt", .text "y"), ("updatedAt", .text "z")])]

theorem assignsOnce_of_supplied :
    ∃ update, start {} "t" [("id", .text "1")] = .ok update ∧
      (∀ call ∈ suppliedCalls, call.2.part? ∉ [some (.clause .set), some .names]) ∧
      LocksFirst suppliedCalls ∧ ¬update.CreatesTwice suppliedCalls ∧
      AssignsOnce (update.run suppliedCalls).2.request.names
        (update.run suppliedCalls).2.clauses.set := by
  have started : start {} "t" [("id", .text "1")] = .ok _ := rfl
  have generated : ∀ call ∈ suppliedCalls,
      call.2.part? ∉ [some (.clause .set), some .names] := by decide
  have first : LocksFirst suppliedCalls := by decide +kernel
  obtain ⟨-, once⟩ := assignsOnce_iff started generated first
  have twice := once.1 (by decide +kernel)
  exact ⟨_, started, generated, first, twice, once.2 twice⟩

/-- The calls before a request that assigns the time of creation in both forms. -/
def createdTwiceCalls : List (World × Call) :=
  [(default, .stamp .created (.text "2024-01-01T00:00:00.000Z")),
    (default, .disableStamp .updated), (default, .merge [("a", .text "1")]),
    (default, .merge [("createdAt", .text "2020-01-01T00:00:00.000Z")])]

/-- A time of creation that a later payload contributes is assigned twice. -/
theorem not_assignsOnce_of_later_creation :
    ∃ update, start {} "t" [("pk", .text "a")] = .ok update ∧
      (∀ call ∈ createdTwiceCalls, call.2.part? ∉ [some (.clause .set), some .names]) ∧
      LocksFirst createdTwiceCalls ∧
      (update.run createdTwiceCalls).2.request.update =
        some ("SET #a = :a, #createdAt = if_not_exists(#createdAt, :createdAt), " ++
          "#createdAt = :createdAt") ∧
      ¬AssignsOnce (update.run createdTwiceCalls).2.request.names
        (update.run createdTwiceCalls).2.clauses.set := by
  exact ⟨_, rfl, by decide, by decide +kernel, by decide +kernel, by decide +kernel⟩

end ItemStore.Update
