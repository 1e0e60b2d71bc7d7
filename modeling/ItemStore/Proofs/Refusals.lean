import Mathlib
import ItemStore.Proofs.Attempts
import ItemStore.Proofs.Read.Modes
import ItemStore.Proofs.Update.Finalized

/-!
# ItemStore.Proofs.Refusals

Which calls builders refuse, for what reasons, and that such calls might as well not be made.

For each builder the reasons are listed call by call, without a word about how they are found
(`Update.Refuses`, `SingleRead.Refuses`, `BatchRead.Refuses`, `AnyRead.Refuses`). A builder refuses
a call exactly if it has one of them, and is left as it was (`Call.RefusesFor`); so a run comes to
the same without the calls that it refuses.
-/

namespace ItemStore

/-! ### Refused calls in runs -/

namespace Call

section Run

variable {σ ι r : Type} {step : σ → ι → r × σ} {refusal? : r → Option Refusal}
  {Reason : σ → ι → Refusal → Prop}

/-- The calls that were not refused, with their results. -/
def taken (refusal? : r → Option Refusal) (calls : List ι) (results : List r) : List (ι × r) :=
  (calls.zip results).filter fun made => (refusal? made.2).isNone

/-- What it is for a builder to refuse calls for some reasons, one of which is that it is fixed. -/
structure RefusesFor (step : σ → ι → r × σ) (refusal? : r → Option Refusal)
    (Reason : σ → ι → Refusal → Prop) (Fixed : σ → ι → Prop) : Prop where
  /-- A call is refused exactly if there is a reason, and the refusal tells it. -/
  refused_iff : ∀ builder call refusal,
    refusal? (step builder call).1 = some refusal ↔ Reason builder call refusal
  /-- A refused call leaves the builder as it was. -/
  unchanged : ∀ builder call refusal,
    refusal? (step builder call).1 = some refusal → (step builder call).2 = builder
  /-- A refusal is about the configuration exactly if what the call would change is fixed. -/
  kind_iff : ∀ builder call refusal, Reason builder call refusal →
    (refusal.kind = .configuration ↔ Fixed builder call)
  /-- The other calls of a run have the same results, and lead to the same builder, on their own. -/
  run : ∀ builder calls,
    run step builder ((taken refusal? calls (run step builder calls).1).map Prod.fst) =
      ((taken refusal? calls (run step builder calls).1).map Prod.snd,
        (run step builder calls).2)

/-- Calls that change nothing when they are refused may be left out of a run. -/
theorem run_taken (unchanged : ∀ builder call refusal,
      refusal? (step builder call).1 = some refusal → (step builder call).2 = builder)
    (builder : σ) (calls : List ι) :
    run step builder ((taken refusal? calls (run step builder calls).1).map Prod.fst) =
      ((taken refusal? calls (run step builder calls).1).map Prod.snd,
        (run step builder calls).2) := by
  induction calls generalizing builder with
  | nil => rfl
  | cons call rest ih =>
      cases refused : refusal? (step builder call).1 with
      | some refusal =>
          -- The rest of the run starts from the same builder with this call as without it.
          have same := unchanged builder call refusal refused
          have others := ih builder
          simp only [run_cons, taken, List.zip_cons_cons, List.filter_cons, refused, same,
            Option.isNone_some, Bool.false_eq_true, if_false] at others ⊢
          exact others
      | none =>
          have others := ih (step builder call).2
          simp only [taken] at others
          simp only [run_cons, taken, List.zip_cons_cons, List.filter_cons, refused,
            Option.isNone_none, if_true, List.map_cons, others]

end Run

variable {σ ρ α : Type}

/-- The reason for which a call was refused, if it was. -/
def Result.refusal? : Result ρ α → Option Refusal
  | .refused refusal => some refusal
  | _ => none

theorem refusal?_change (builder : σ) (result : Except Refusal σ) (refusal : Refusal) :
    (change (ρ := ρ) (α := α) builder result).1.refusal? = some refusal ↔
      result = .error refusal := by
  cases result with
  | ok changed => exact ⟨nofun, nofun⟩
  | error other => simp [change, Result.refusal?]

theorem unchanged_change {builder : σ} {result : Except Refusal σ} {refusal : Refusal}
    (h : (change (ρ := ρ) (α := α) builder result).1.refusal? = some refusal) :
    (change (ρ := ρ) (α := α) builder result).2 = builder := by
  rw [(refusal?_change builder result refusal).1 h]
  rfl

end Call

theorem map_eq_error_iff {β γ : Type} {f : β → γ} {result : Except Refusal β} {refusal : Refusal} :
    result.map f = .error refusal ↔ result = .error refusal := by
  cases result with
  | ok b => exact ⟨nofun, nofun⟩
  | error other => simp [Except.map]

theorem ite_eq_error_iff {β : Type} {p : Prop} [Decidable p] {reason refusal : Refusal} {b : β} :
    (if p then .error reason else .ok b : Except Refusal β) = .error refusal ↔
      p ∧ refusal = reason := by
  by_cases h : p <;> simp [h, @eq_comm _ reason]

/-! ### Addresses -/

namespace Address

variable {refusal : Refusal}

theorem table_eq_error_iff {name : String} :
    table name = .error refusal ↔ Text.isBlank name = true ∧ refusal = .blankTable :=
  ite_eq_error_iff

theorem key_eq_error_iff {pairs : List (String × Value)} :
    key pairs = .error refusal ↔ pairs = [] ∧ refusal = .emptyKey := by
  rw [← NameMap.isEmpty_ofList_iff]
  exact ite_eq_error_iff

theorem each_eq_error_iff {lists : List (List (String × Value))} :
    each lists = .error refusal ↔ [] ∈ lists ∧ refusal = .emptyKey := by
  induction lists with
  | nil => simp [each]
  | cons pairs rest ih =>
      rw [each, List.mem_cons]
      cases first : key pairs with
      | error other =>
          obtain ⟨empty, rfl⟩ := key_eq_error_iff.1 first
          simp [empty, bind, Except.bind, @eq_comm _ _ refusal]
      | ok item =>
          -- A key that was made had attributes, so only a later one can be empty.
          have filled : ¬ [] = pairs := by
            intro empty
            rw [← empty] at first
            cases first
          simp only [filled, false_or, ← ih]
          cases each rest <;> simp [bind, Except.bind, pure, Except.pure]

theorem keys_eq_error_iff {lists : List (List (String × Value))} :
    keys lists = .error refusal ↔
      lists = [] ∧ refusal = .noKeys ∨ [] ∈ lists ∧ refusal = .emptyKey := by
  unfold keys
  cases lists with
  | nil => simp [@eq_comm _ _ refusal]
  | cons pairs rest => simp [each_eq_error_iff]

end Address

/-! ### Updates -/

namespace Update

/-- What a call may not be given, in any phase, and the refusal that tells it. -/
def Call.Invalid : Call → Refusal → Prop
  | .table name, refusal => Text.isBlank name = true ∧ refusal = .blankTable
  | .key pairs, refusal => pairs = [] ∧ refusal = .emptyKey
  | .stamp audit (.text s), refusal => Text.isBlank s = true ∧ refusal = .blankStamp audit
  | .condition expression _, refusal => Text.isBlank expression = true ∧ refusal = .blankCondition
  | .mergeDocument (.error error), refusal => refusal = .unwritablePayload error
  | .mergeDocument (.ok document), refusal =>
      (∀ members, document ≠ .object members) ∧ refusal = .payloadNotAnObject
  | _, _ => False

theorem Call.Invalid.kind {call : Call} {refusal : Refusal} (h : call.Invalid refusal) :
    refusal.kind = .validation := by
  unfold Call.Invalid at h
  split at h
  · rw [h.2]; rfl
  · rw [h.2]; rfl
  · rw [h.2]; rfl
  · rw [h.2]; rfl
  · rw [h]; rfl
  · rw [h.2]; rfl
  · cases h

/-- Documents that could not be written, or are no objects, and no others, are no payloads. -/
theorem ofDocument_eq_error_iff {document : Except Json.WriteError Json} {refusal : Refusal} :
    Payload.ofDocument document = .error refusal ↔
      (Call.mergeDocument document).Invalid refusal := by
  cases document with
  | error error => simp [Payload.ofDocument, Call.Invalid, @eq_comm _ refusal]
  | ok document =>
      cases document with
      | object members => simp [Payload.ofDocument, Item.ofJson?, Call.Invalid]
      | _ => simp [Payload.ofDocument, Item.ofJson?, Call.Invalid, @eq_comm _ refusal]

/-- Why an update refuses a call. Whether the call is too late counts before what it is given. -/
inductive Refuses (update : Update) (call : Call) : Refusal → Prop
  | late {setting : Setting} (sets : call.setting? = some setting)
      (built : update.phase = .finalized) : Refuses update call (.finalized setting)
  | invalid {refusal : Refusal} (early : call.setting? = none ∨ update.phase = .building)
      (invalid : call.Invalid refusal) : Refuses update call refusal

variable {update : Update} {call : Call} {refusal : Refusal}

theorem refuses_iff_of_setting {setting : Setting} (sets : call.setting? = some setting) :
    update.Refuses call refusal ↔
      update.phase = .finalized ∧ refusal = .finalized setting ∨
        update.phase = .building ∧ call.Invalid refusal := by
  constructor
  · intro h
    cases h with
    | late other built =>
        rw [sets] at other
        cases other
        exact .inl ⟨built, rfl⟩
    | invalid early invalid =>
        rw [sets] at early
        exact .inr ⟨early.resolve_left nofun, invalid⟩
  · intro h
    rcases h with ⟨built, is⟩ | ⟨early, invalid⟩
    · rw [is]
      exact .late sets built
    · exact .invalid (.inr early) invalid

theorem refuses_iff_of_no_setting (sets : call.setting? = none) :
    update.Refuses call refusal ↔ call.Invalid refusal := by
  constructor
  · intro h
    cases h with
    | late other built =>
        rw [sets] at other
        cases other
    | invalid early invalid => exact invalid
  · exact .invalid (.inl sets)

theorem whileBuilding_eq_error_iff {setting : Setting} {change : Except Refusal Update} :
    update.whileBuilding setting change = .error refusal ↔
      update.phase = .finalized ∧ refusal = .finalized setting ∨
        update.phase = .building ∧ change = .error refusal := by
  unfold whileBuilding
  cases update.phase with
  | building => simp
  | finalized => simp [@eq_comm _ refusal]

/-- A change of a setting is refused for being late, or else for what it is given. -/
theorem refusal?_whileBuilding {setting : Setting} {change : Except Refusal Update}
    (sets : call.setting? = some setting) (given : change = .error refusal ↔ call.Invalid refusal) :
    (ItemStore.Call.change (ρ := UpdateRequest) (α := UpdateResponse) update
        (update.whileBuilding setting change)).1.refusal? = some refusal ↔
      update.Refuses call refusal := by
  rw [ItemStore.Call.refusal?_change, whileBuilding_eq_error_iff, given,
    refuses_iff_of_setting sets]

/-- An update refuses a call exactly for the reasons there are. -/
theorem refusal?_step (world : World) (update : Update) (call : Call) (refusal : Refusal) :
    (update.step world call).1.refusal? = some refusal ↔ update.Refuses call refusal := by
  cases call with
  | table name =>
      rw [step_table]
      apply refusal?_whileBuilding rfl
      exact map_eq_error_iff.trans Address.table_eq_error_iff
  | key pairs =>
      rw [step_key]
      apply refusal?_whileBuilding rfl
      exact map_eq_error_iff.trans Address.key_eq_error_iff
  | mark attrs =>
      rw [step_mark]
      apply refusal?_whileBuilding rfl
      simp [Call.Invalid]
  | disableStamp audit =>
      rw [step_disableStamp]
      apply refusal?_whileBuilding rfl
      simp [Call.Invalid]
  | stamp audit stamp =>
      rw [step_stamp]
      apply refusal?_whileBuilding rfl
      rw [map_eq_error_iff]
      cases stamp with
      | text s => exact ite_eq_error_iff
      | instant time => simp [Stamp.checked, Call.Invalid]
  | mergeDocument document =>
      rw [refuses_iff_of_no_setting rfl, step_mergeDocument, ItemStore.Call.refusal?_change,
        map_eq_error_iff, ofDocument_eq_error_iff]
  | condition expression connective =>
      rw [refuses_iff_of_no_setting rfl, step_condition, ItemStore.Call.refusal?_change]
      exact ite_eq_error_iff
  | lock revision =>
      rw [refuses_iff_of_no_setting rfl]
      cases revision <;> simp [step, ItemStore.Call.Result.refusal?, Call.Invalid]
  | execute =>
      rw [refuses_iff_of_no_setting rfl]
      exact iff_of_false (fun h => by cases h) id
  | _ =>
      rw [refuses_iff_of_no_setting rfl]
      simp [step, ItemStore.Call.Result.refusal?, Call.Invalid]

/-- A call that is refused leaves the update as it was. -/
theorem unchanged_step (world : World) (update : Update) (call : Call) (refusal : Refusal)
    (h : (update.step world call).1.refusal? = some refusal) :
    (update.step world call).2 = update := by
  cases call with
  | table name =>
      rw [step_table] at h ⊢
      exact ItemStore.Call.unchanged_change h
  | key pairs =>
      rw [step_key] at h ⊢
      exact ItemStore.Call.unchanged_change h
  | mark attrs =>
      rw [step_mark] at h ⊢
      exact ItemStore.Call.unchanged_change h
  | disableStamp audit =>
      rw [step_disableStamp] at h ⊢
      exact ItemStore.Call.unchanged_change h
  | stamp audit stamp =>
      rw [step_stamp] at h ⊢
      exact ItemStore.Call.unchanged_change h
  | mergeDocument document =>
      rw [step_mergeDocument] at h ⊢
      exact ItemStore.Call.unchanged_change h
  | condition expression connective =>
      rw [step_condition] at h ⊢
      exact ItemStore.Call.unchanged_change h
  | lock revision => cases revision <;> cases h
  | _ => cases h

/-- Whether a call would change a setting that is fixed. -/
def Fixed (update : Update) (call : Call) : Prop :=
  update.phase = .finalized ∧ call.setting? ≠ none

theorem Refuses.kind_iff (h : update.Refuses call refusal) :
    refusal.kind = .configuration ↔ update.Fixed call := by
  cases h with
  | late sets built =>
      have fixed : update.Fixed call := ⟨built, by rw [sets]; exact nofun⟩
      exact iff_of_true rfl fixed
  | invalid early invalid =>
      rw [invalid.kind]
      refine iff_of_false nofun fun fixed => ?_
      rcases early with none | building
      · exact fixed.2 none
      · rw [Fixed, building] at fixed
        cases fixed.1

end Update

/-! ### Reads -/

/-- Why a read of one item refuses a call. -/
def SingleRead.Refuses : SingleRead.Call → Refusal → Prop
  | .table name, refusal => Text.isBlank name = true ∧ refusal = .blankTable
  | .key pairs, refusal => pairs = [] ∧ refusal = .emptyKey
  | _, _ => False

/-- Why a read of several items refuses a call. Its table is fixed, whatever the name. -/
def BatchRead.Refuses : BatchRead.Call → Refusal → Prop
  | .table _, refusal => refusal = .tableFixed
  | .keys keys, refusal => keys = [] ∧ refusal = .noKeys ∨ [] ∈ keys ∧ refusal = .emptyKey
  | _, _ => False

/-- Whether a call would change the table, which is fixed. -/
def BatchRead.Fixed (call : BatchRead.Call) : Prop := ∃ name, call = .table name

theorem SingleRead.Refuses.kind_iff {call : SingleRead.Call} {refusal : Refusal}
    (h : SingleRead.Refuses call refusal) : refusal.kind = .configuration ↔ False := by
  unfold SingleRead.Refuses at h
  split at h
  · rw [h.2]
    exact iff_of_false nofun id
  · rw [h.2]
    exact iff_of_false nofun id
  · cases h

theorem BatchRead.Refuses.kind_iff {call : BatchRead.Call} {refusal : Refusal}
    (h : BatchRead.Refuses call refusal) :
    refusal.kind = .configuration ↔ BatchRead.Fixed call := by
  unfold BatchRead.Refuses at h
  split at h
  · rw [h]
    exact iff_of_true rfl ⟨_, rfl⟩
  · rcases h with ⟨-, is⟩ | ⟨-, is⟩
    · rw [is]
      exact iff_of_false nofun nofun
    · rw [is]
      exact iff_of_false nofun nofun
  · cases h

theorem SingleRead.refusal?_step (client : Client) (read : SingleRead) (call : SingleRead.Call)
    (refusal : Refusal) :
    (read.step client call).1.refusal? = some refusal ↔ SingleRead.Refuses call refusal := by
  cases call with
  | table name =>
      rw [step_table, Call.refusal?_change]
      exact map_eq_error_iff.trans Address.table_eq_error_iff
  | key pairs =>
      rw [step_key, Call.refusal?_change]
      exact map_eq_error_iff.trans Address.key_eq_error_iff
  | _ => exact ⟨nofun, nofun⟩

theorem SingleRead.unchanged_step (client : Client) (read : SingleRead) (call : SingleRead.Call)
    (refusal : Refusal) (h : (read.step client call).1.refusal? = some refusal) :
    (read.step client call).2 = read := by
  cases call with
  | table name =>
      rw [step_table] at h ⊢
      exact Call.unchanged_change h
  | key pairs =>
      rw [step_key] at h ⊢
      exact Call.unchanged_change h
  | _ => cases h

theorem BatchRead.refusal?_step (client : Client) (read : BatchRead) (call : BatchRead.Call)
    (refusal : Refusal) :
    (read.step client call).1.refusal? = some refusal ↔ BatchRead.Refuses call refusal := by
  cases call with
  | table name =>
      rw [step_table, Call.refusal?_change]
      simp [Refuses, @eq_comm _ refusal]
  | keys keys =>
      rw [step_keys, Call.refusal?_change]
      exact map_eq_error_iff.trans Address.keys_eq_error_iff
  | _ => exact ⟨nofun, nofun⟩

theorem BatchRead.unchanged_step (client : Client) (read : BatchRead) (call : BatchRead.Call)
    (refusal : Refusal) (h : (read.step client call).1.refusal? = some refusal) :
    (read.step client call).2 = read := by
  cases call with
  | table name =>
      rw [step_table] at h ⊢
      exact Call.unchanged_change h
  | keys keys =>
      rw [step_keys] at h ⊢
      exact Call.unchanged_change h
  | _ => cases h

theorem ModeCall.name_injective : Function.Injective ModeCall.name := by
  intro call other same
  cases call <;> cases other <;> first | rfl | exact absurd same (by decide)

namespace AnyRead

/-- The reason for which a call was refused, if it was. -/
def Result.refusal? : Result → Option Refusal
  | .refused refusal => some refusal
  | _ => none

/-- Why a read of one side refuses a call: its mode does so, or does not have the call. -/
def Side.Refuses {κ ι ρ α : Type} (side : Side κ ι ρ α) (Own : ι → Refusal → Prop) (call : Call)
    (refusal : Refusal) : Prop :=
  (∃ own, side.own? call = some own ∧ Own own refusal) ∨
    ∃ foreign : ModeCall, side.foreign? call = some foreign.name ∧
      refusal = .wrongMode side.mode foreign

/-- Why a read of either mode refuses a call. -/
def Refuses : AnyRead → Call → Refusal → Prop
  | .single _ => Side.single.Refuses SingleRead.Refuses
  | .batch _ => Side.batch.Refuses BatchRead.Refuses

section Side

variable {κ ι ρ α : Type} {side : Side κ ι ρ α} {Own : ι → Refusal → Prop} {call : Call}
  {refusal : Refusal}

theorem Side.refuses_iff_of_own {own : ι} (has : side.own? call = some own)
    (hasNot : side.foreign? call = none) :
    side.Refuses Own call refusal ↔ Own own refusal := by
  simp [Side.Refuses, has, hasNot]

theorem Side.refuses_iff_of_foreign (foreign : ModeCall) (hasNot : side.own? call = none)
    (has : side.foreign? call = some foreign.name) :
    side.Refuses Own call refusal ↔ refusal = .wrongMode side.mode foreign := by
  simp [Side.Refuses, has, hasNot, ModeCall.name_injective.eq_iff]

theorem Side.not_refuses (own : side.own? call = none) (foreign : side.foreign? call = none) :
    ¬ side.Refuses Own call refusal := by
  simp [Side.Refuses, own, foreign]

end Side

/-- Whether a call would change the table of a read of several items, which is fixed. -/
def Fixed (read : AnyRead) (call : Call) : Prop := read.mode = .batch ∧ ∃ name, call = .table name

theorem Refuses.kind_iff {read : AnyRead} {call : Call} {refusal : Refusal}
    (h : read.Refuses call refusal) : refusal.kind = .configuration ↔ read.Fixed call := by
  cases read with
  | single inner =>
      have other : ¬ (single inner).Fixed call := fun fixed => nomatch fixed.1
      rcases h with ⟨own, -, h⟩ | ⟨foreign, -, is⟩
      · exact iff_of_false (SingleRead.Refuses.kind_iff h).1 other
      · rw [is]
        exact iff_of_false nofun other
  | batch inner =>
      rcases h with ⟨own, has, h⟩ | ⟨foreign, has, is⟩
      · rw [BatchRead.Refuses.kind_iff h]
        constructor
        · rintro ⟨name, rfl⟩
          cases call <;> cases has
          exact ⟨rfl, name, rfl⟩
        · rintro ⟨-, name, rfl⟩
          cases has
          exact ⟨name, rfl⟩
      · rw [is]
        refine iff_of_false nofun fun fixed => ?_
        obtain ⟨-, name, rfl⟩ := fixed
        cases has

theorem refusal?_refused {refused refusal : Refusal} :
    (Result.refused refused).refusal? = some refusal ↔ refusal = refused := by
  rw [Result.refusal?, Option.some.injEq, eq_comm]

section Side

variable {κ ι ρ α : Type} {side : Side κ ι ρ α} {client : Client} {typed : Read κ} {call : Call}
  {refusal : Refusal}

/-- A call of its own mode a wrapped read refuses as the read in it does. -/
theorem Side.Delegates.refusal?_iff_of_own (h : side.Delegates client typed call)
    (plain : ∀ built, (side.request built).refusal? = none) {own : ι}
    (has : side.own? call = some own) :
    ((side.wrap typed).step call).1.refusal? = some refusal ↔
      (side.step client typed own).1.refusal? = some refusal := by
  have same := (h.own has).1
  cases result : (side.step client typed own).1 with
  | answer sent answer =>
      rw [result] at same
      cases same
  | request built =>
      rw [result] at same
      rw [← Option.some.inj same, plain]
      exact ⟨nofun, nofun⟩
  | done | refused _ =>
      rw [result] at same
      rw [← Option.some.inj same]
      rfl

theorem Side.Delegates.unchanged (h : side.Delegates client typed call)
    (plain : ∀ built, (side.request built).refusal? = none)
    (kept : ∀ own, (side.step client typed own).1.refusal? = some refusal →
      (side.step client typed own).2 = typed)
    (refused : ((side.wrap typed).step call).1.refusal? = some refusal) :
    ((side.wrap typed).step call).2 = side.wrap typed := by
  cases has : side.own? call with
  | none => exact h.other has
  | some own =>
      rw [h.refusal?_iff_of_own plain has] at refused
      rw [(h.own has).2, kept own refused]

end Side

theorem refusal?_step_single (read : SingleRead) (call : Call) (refusal : Refusal) :
    ((single read).step call).1.refusal? = some refusal ↔
      Side.single.Refuses SingleRead.Refuses call refusal := by
  have delegates := Side.delegates_single .echo read call
  cases call with
  | table _ | key _ | shape _ | itemRequest =>
      rw [Side.refuses_iff_of_own rfl rfl]
      exact (delegates.refusal?_iff_of_own (fun _ => rfl) rfl).trans
        (SingleRead.refusal?_step .echo read _ refusal)
  | keys keys =>
      rw [Side.refuses_iff_of_foreign .keys rfl rfl]
      exact refusal?_refused
  | batchRequest =>
      rw [Side.refuses_iff_of_foreign .batchRequest rfl rfl]
      exact refusal?_refused
  | intoBatch =>
      rw [Side.refuses_iff_of_foreign .intoBatch rfl rfl]
      exact refusal?_refused
  | mode | intoSingle => exact ⟨nofun, fun h => absurd h (Side.not_refuses rfl rfl)⟩

theorem refusal?_step_batch (read : BatchRead) (call : Call) (refusal : Refusal) :
    ((batch read).step call).1.refusal? = some refusal ↔
      Side.batch.Refuses BatchRead.Refuses call refusal := by
  have delegates := Side.delegates_batch .echo read call
  cases call with
  | table _ | keys _ | shape _ | batchRequest =>
      rw [Side.refuses_iff_of_own rfl rfl]
      exact (delegates.refusal?_iff_of_own (fun _ => rfl) rfl).trans
        (BatchRead.refusal?_step .echo read _ refusal)
  | key pairs =>
      rw [Side.refuses_iff_of_foreign .key rfl rfl]
      exact refusal?_refused
  | itemRequest =>
      rw [Side.refuses_iff_of_foreign .itemRequest rfl rfl]
      exact refusal?_refused
  | intoSingle =>
      rw [Side.refuses_iff_of_foreign .intoSingle rfl rfl]
      exact refusal?_refused
  | mode | intoBatch => exact ⟨nofun, fun h => absurd h (Side.not_refuses rfl rfl)⟩

theorem refusal?_step (read : AnyRead) (call : Call) (refusal : Refusal) :
    (read.step call).1.refusal? = some refusal ↔ read.Refuses call refusal := by
  cases read with
  | single inner => exact refusal?_step_single inner call refusal
  | batch inner => exact refusal?_step_batch inner call refusal

theorem unchanged_step (read : AnyRead) (call : Call) (refusal : Refusal)
    (h : (read.step call).1.refusal? = some refusal) : (read.step call).2 = read := by
  cases read with
  | single inner =>
      exact (Side.delegates_single .echo inner call).unchanged (fun _ => rfl)
        (SingleRead.unchanged_step .echo inner · refusal) h
  | batch inner =>
      exact (Side.delegates_batch .echo inner call).unchanged (fun _ => rfl)
        (BatchRead.unchanged_step .echo inner · refusal) h

end AnyRead

/-! ### All builders -/

/--
Builders refuse calls for no reasons but these, and a refused call changes nothing.

* An update refuses the calls that change a setting once its request has been built, whatever they
  are given. Else it refuses a blank table name, an empty key, a blank text for a timestamp, a blank
  condition, and a document that could not be written or is no object.
* A read of one item refuses a blank table name and an empty key.
* A read of several items refuses every table name, a list of no keys, and one with an empty key.
* A read of either mode refuses what the read of its mode does, and the calls of the other mode.

The refusal is about the configuration exactly for an update that is too late, and for the table of
a read of several items.
-/
theorem builders_refuse :
    Call.RefusesFor
        (fun (update : Update) (call : Update.World × Update.Call) => update.step call.1 call.2)
        Call.Result.refusal? (fun update call => update.Refuses call.2)
        (fun update call => update.Fixed call.2) ∧
      Call.RefusesFor
        (fun (read : SingleRead) (call : Client × SingleRead.Call) => read.step call.1 call.2)
        Call.Result.refusal? (fun _ call => SingleRead.Refuses call.2) (fun _ _ => False) ∧
      Call.RefusesFor
        (fun (read : BatchRead) (call : Client × BatchRead.Call) => read.step call.1 call.2)
        Call.Result.refusal? (fun _ call => BatchRead.Refuses call.2)
        (fun _ call => BatchRead.Fixed call.2) ∧
      Call.RefusesFor AnyRead.step AnyRead.Result.refusal? AnyRead.Refuses AnyRead.Fixed := by
  refine ⟨?_, ?_, ?_, ?_⟩
  · have unchanged (update : Update) (call : Update.World × Update.Call) :=
      Update.unchanged_step call.1 update call.2
    exact ⟨fun update call => Update.refusal?_step call.1 update call.2, unchanged,
      fun _ _ _ => Update.Refuses.kind_iff, Call.run_taken unchanged⟩
  · have unchanged (read : SingleRead) (call : Client × SingleRead.Call) :=
      SingleRead.unchanged_step call.1 read call.2
    exact ⟨fun read call => SingleRead.refusal?_step call.1 read call.2, unchanged,
      fun _ _ _ => SingleRead.Refuses.kind_iff, Call.run_taken unchanged⟩
  · have unchanged (read : BatchRead) (call : Client × BatchRead.Call) :=
      BatchRead.unchanged_step call.1 read call.2
    exact ⟨fun read call => BatchRead.refusal?_step call.1 read call.2, unchanged,
      fun _ _ _ => BatchRead.Refuses.kind_iff, Call.run_taken unchanged⟩
  · exact ⟨AnyRead.refusal?_step, AnyRead.unchanged_step, fun _ _ _ => AnyRead.Refuses.kind_iff,
      Call.run_taken AnyRead.unchanged_step⟩

/-- A call that is too late and not valid is refused for being too late. -/
example (update : Update) :
    (update.finalize.step default (.table " ")).1 = .refused (.finalized .table) :=
  rfl

end ItemStore
