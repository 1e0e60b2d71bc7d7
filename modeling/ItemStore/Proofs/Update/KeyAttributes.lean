import Mathlib
import ItemStore.Proofs.Update.Effects

/-!
# ItemStore.Proofs.Update.KeyAttributes

Payloads and the attributes of the key, which no update may assign.

The entries of a payload pass a check of the key, but the timestamps behind them do not. So a
payload keeps away from the key just if no timestamp that it brings along is in the key
(`sparesKey_merge_iff`).
-/

namespace ItemStore.Update

open Expression (assigned? assigned?_text isAlphanumeric)

variable {update : Update}

/-- Whether some fragments assign no attribute of the key, as the names resolve them. -/
def SparesKey (key : Item) (names : NameMap String) (fragments : List String) : Prop :=
  ∀ fragment ∈ fragments, ∀ attr, assigned? names fragment = some attr → key.contains attr = false

/--
Whether a payload brings a timestamp along that is in the key: it is due, and the SET clause does
not have its fragment yet.
-/
def StampsKey (update : Update) (payload : Payload) (audit : Audit) : Prop :=
  update.key.contains audit.attr = true ∧ update.isPending audit payload = true ∧
    audit.form.text audit.attr ∉ update.clauses.set

instance (payload : Payload) (audit : Audit) : Decidable (update.StampsKey payload audit) :=
  inferInstanceAs (Decidable (_ ∧ _ ∧ _))

/-- The fragments of a payload's writes assign the attributes that are written. -/
theorem IsFragmentOf.assigned? (regular : update.placeholders.Regular) {ws : List Write}
    {w : Write} (mem : w ∈ ws) {fragment : String}
    (h : (ws.foldl write update).IsFragmentOf fragment w) :
    assigned? (ws.foldl write update).names fragment = some w.attr := by
  obtain ⟨body, has, rfl⟩ := h
  obtain ⟨body', has', named⟩ := isNamed_foldl_write regular mem
  rw [has] at has'
  obtain rfl := Option.some.inj has'
  rw [assigned?_text _ _ ((regular_foldl_write regular ws).sound.isWord has), named]

/-- The fragment of a timestamp is the one that a caller would write. -/
theorem isFragmentOf_stamp (regular : update.placeholders.Regular) {ws : List Write} {w : Write}
    (mem : w ∈ ws) {audit : Audit} (form : w.form = audit.form) (attr : w.attr = audit.attr)
    (fragment : String) :
    (ws.foldl write update).IsFragmentOf fragment w ↔
      fragment = audit.form.text audit.attr := by
  obtain ⟨body, has, -⟩ := isNamed_foldl_write regular mem
  have plain := (regular_foldl_write regular ws).body_eq audit.isAlphanumeric_attr
  rw [← attr, Expression.Placeholders.body_of_find? has] at plain
  rw [IsFragmentOf, has, form]
  constructor
  · rintro ⟨other, eq, rfl⟩
    rw [← Option.some.inj eq, ← attr]
    exact congrArg _ plain
  · rintro rfl
    exact ⟨body, rfl, by rw [← attr]; exact congrArg _ plain.symm⟩

/-- A payload keeps away from the key unless it brings a timestamp along that is in the key. -/
theorem sparesKey_merge_iff (regular : update.placeholders.Regular) (clock : Clock)
    (payload : Payload) :
    ∃ added, (update.merge clock payload).clauses.set = update.clauses.set ++ added ∧
      (SparesKey update.key (update.merge clock payload).names added ↔
        ∀ audit, ¬update.StampsKey payload audit) := by
  obtain ⟨added, set, spec⟩ := set_foldl_write (update.writes clock payload) update
  refine ⟨added, by rw [merge_eq, ← set], ?_⟩
  rw [merge_eq]
  constructor
  · rintro spares audit ⟨inKey, pending, new⟩
    -- The timestamp is written, and its fragment is new.
    have mem : ⟨audit.form, audit.attr, update.stampValue clock audit⟩ ∈
        update.writes clock payload :=
      mem_writes_iff.2 (.inr ⟨audit, mem_stampWrite?_iff.2 ⟨pending, rfl⟩⟩)
    have own := (isFragmentOf_stamp regular mem rfl rfl _).2 rfl
    have safe := spares _ ((spec _).2 ⟨new, _, mem, own⟩) audit.attr (own.assigned? regular mem)
    rw [inKey] at safe
    cases safe
  · intro none fragment mem attr assigns
    obtain ⟨new, w, made, own⟩ := (spec fragment).1 mem
    obtain rfl := Option.some.inj ((own.assigned? regular made).symm.trans assigns)
    -- The entries have passed the check of the key, so it is a timestamp that is in the key.
    rcases mem_writes_iff.1 made with entry | ⟨audit, stamp⟩
    · obtain ⟨entry, -, admitted, rfl⟩ := mem_entryWrites_iff.1 entry
      rw [admits, Bool.and_eq_true, Bool.and_eq_true, Bool.not_eq_true', Bool.not_eq_true']
        at admitted
      exact admitted.1.2
    · obtain ⟨pending, rfl⟩ := mem_stampWrite?_iff.1 stamp
      by_contra inKey
      rw [Bool.not_eq_false] at inKey
      rw [isFragmentOf_stamp regular made rfl rfl] at own
      exact none audit ⟨inKey, pending, own ▸ new⟩

/-! ### Runs -/

/--
In every state that a run leads to, a call that takes a payload keeps away from the key unless the
payload brings a timestamp along that is in the key.
-/
theorem sparesKey_step_iff {settings : Settings} {table : String} {key : List (String × Value)}
    {initial : Update} (started : start settings table key = .ok initial)
    (calls : List (World × Call)) (reached : (initial.run calls).2 = update) (world : World)
    {call : Call} {payload : Payload} (taken : call.effect = .merge payload) :
    ∃ added, (update.step world call).2.clauses.set = update.clauses.set ++ added ∧
      (SparesKey update.key (update.step world call).2.names added ↔
        ∀ audit, ¬update.StampsKey payload audit) := by
  have regular : update.placeholders.Regular :=
    reached ▸ regular_run (fresh_of_start started) calls
  have merged : (update.step world call).2 = update.merge world.clock payload := by
    have does := step_does world update call
    rwa [taken] at does
  rw [merged]
  exact sparesKey_merge_iff regular world.clock payload

theorem sparesKey_step_of_plain_key :
    ∃ update added, start {} "t" [("id", .text "1")] = .ok update ∧
      (update.step default (.merge [("id", .null), ("a", .null)])).2.clauses.set = added ∧
      SparesKey update.key (update.step default (.merge [("id", .null), ("a", .null)])).2.names
        added := by
  have started : start {} "t" [("id", .text "1")] = .ok _ := rfl
  have taken : (Call.merge [("id", .null), ("a", .null)]).effect = .merge _ := rfl
  obtain ⟨added, set, spares⟩ := sparesKey_step_iff started [] rfl default taken
  refine ⟨_, added, started, set, spares.2 fun audit => ?_⟩
  cases audit <;> decide +kernel

/-- The calls before a payload is taken for an item whose key has the time of its creation. -/
def stampedCalls : List (World × Call) :=
  [(default, .stamp .created (.text "2024-01-01T00:00:00.000Z")), (default, .disableStamp .updated)]

/-- A timestamp in the key is assigned all the same. -/
theorem not_sparesKey_of_created :
    ∃ update added, start {} "t" [("createdAt", .text "x")] = .ok update ∧
      ((update.run stampedCalls).2.step default (.merge [("a", .text "1")])).2.clauses.set =
        (update.run stampedCalls).2.clauses.set ++ added ∧
      ¬SparesKey (update.run stampedCalls).2.key
        ((update.run stampedCalls).2.step default (.merge [("a", .text "1")])).2.names added := by
  refine ⟨_, ["#a = :a", "#createdAt = if_not_exists(#createdAt, :createdAt)"], rfl,
    by decide +kernel, fun spares => ?_⟩
  have safe := spares "#createdAt = if_not_exists(#createdAt, :createdAt)" (by decide) "createdAt"
    (by decide +kernel)
  revert safe
  decide +kernel

end ItemStore.Update
