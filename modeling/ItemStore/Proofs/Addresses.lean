import Mathlib
import ItemStore.Proofs.Attempts
import ItemStore.Proofs.Read.Modes
import ItemStore.Proofs.Runs
import ItemStore.Proofs.Update.Finalized

/-!
# ItemStore.Proofs.Addresses

Every request has an address: a table with a name, and in it one or several keys with attributes.

The checks ask for that and for nothing else (`table_eq_ok_iff`, `key_eq_ok_iff`, `keys_eq_ok_iff`).
A builder makes them when it starts and for each call that changes the address, in whatever phase
it is. So it has a valid one at all times (`IsAddressed.step`), and requests take it from there.
-/

namespace ItemStore

/-! ### Addresses -/

namespace Address

/-- Whether a name has a character that is not white space. -/
def IsName (name : String) : Prop := ∃ c ∈ name.toList, Text.isWhiteSpace c = false

/-- Whether a key has an attribute. -/
def IsKey (key : Item) : Prop := ∃ attr, key.contains attr = true

/-- Whether there are keys, all of which have attributes. -/
structure AreKeys (keys : List Item) : Prop where
  ne_nil : keys ≠ []
  each : ∀ key ∈ keys, IsKey key

/-- Whether a table has a name, and what is looked for in it is a target. -/
structure Valid {κ : Type} (IsTarget : κ → Prop) (table : String) (target : κ) : Prop where
  table : IsName table
  target : IsTarget target

theorem ite_eq_ok_iff {β : Type} {p : Prop} [Decidable p] {reason : Refusal} {b c : β} :
    (if p then .error reason else .ok b : Except Refusal β) = .ok c ↔ ¬ p ∧ c = b := by
  by_cases h : p <;> simp [h, @eq_comm _ b]

theorem table_eq_ok_iff {name table : String} :
    Address.table name = .ok table ↔ IsName name ∧ table = name := by
  rw [Address.table, ite_eq_ok_iff, Bool.not_eq_true, Text.isBlank_eq_false_iff, IsName]

theorem key_eq_ok_iff {pairs : List (String × Value)} {item : Item} :
    key pairs = .ok item ↔ pairs ≠ [] ∧ item = NameMap.ofList pairs := by
  rw [ne_eq, ← NameMap.isEmpty_ofList_iff]
  exact ite_eq_ok_iff

theorem each_eq_ok_iff {lists : List (List (String × Value))} {items : List Item} :
    each lists = .ok items ↔
      (∀ pairs ∈ lists, pairs ≠ []) ∧ items = lists.map NameMap.ofList := by
  induction lists generalizing items with
  | nil => simp [each]
  | cons pairs rest ih =>
      constructor
      · intro h
        obtain ⟨item, first, h⟩ := Json.bind_eq_ok h
        obtain ⟨more, others, made⟩ := Json.bind_eq_ok h
        cases made
        rw [(key_eq_ok_iff.1 first).2, (ih.1 others).2]
        exact ⟨List.forall_mem_cons.2 ⟨(key_eq_ok_iff.1 first).1, (ih.1 others).1⟩, rfl⟩
      · intro h
        obtain ⟨filled, others⟩ := List.forall_mem_cons.1 h.1
        rw [each, key_eq_ok_iff.2 ⟨filled, rfl⟩, ih.2 ⟨others, rfl⟩, h.2]
        rfl

theorem keys_eq_ok_iff {lists : List (List (String × Value))} {items : List Item} :
    keys lists = .ok items ↔
      lists ≠ [] ∧ (∀ pairs ∈ lists, pairs ≠ []) ∧ items = lists.map NameMap.ofList := by
  unfold keys
  cases lists with
  | nil => simp
  | cons pairs rest => simp [-List.map_cons, each_eq_ok_iff]

theorem isKey_ofList {pairs : List (String × Value)} (h : pairs ≠ []) :
    IsKey (NameMap.ofList pairs) := by
  cases pairs with
  | nil => exact absurd rfl h
  | cons pair rest => exact ⟨pair.1, (NameMap.contains_insertAll _ _ _).2 (.inl (by simp))⟩

theorem isName_of_table_eq_ok {name table : String} (h : Address.table name = .ok table) :
    IsName table := by
  obtain ⟨is, same⟩ := table_eq_ok_iff.1 h
  rwa [same]

theorem isKey_of_key_eq_ok {pairs : List (String × Value)} {item : Item}
    (h : key pairs = .ok item) : IsKey item := by
  obtain ⟨filled, same⟩ := key_eq_ok_iff.1 h
  rw [same]
  exact isKey_ofList filled

theorem areKeys_of_keys_eq_ok {lists : List (List (String × Value))} {items : List Item}
    (h : keys lists = .ok items) : AreKeys items := by
  obtain ⟨some, filled, same⟩ := keys_eq_ok_iff.1 h
  rw [same]
  refine ⟨by simpa using some, fun key mem => ?_⟩
  obtain ⟨pairs, listed, is⟩ := List.mem_map.1 mem
  rw [← is]
  exact isKey_ofList (filled pairs listed)

end Address

open Address (IsKey AreKeys Valid)
open Call (forall_map_eq_ok forall_ok_eq_ok invariant_change)

/-- Whether a request has a valid address. A read of several items has one table. -/
def Request.IsAddressed : Request → Prop
  | .get request => Valid IsKey request.table request.key
  | .batchGet request => ∃ table entry,
      request.tables.entries = [(table, entry)] ∧ Valid AreKeys table entry.keys
  | .update request => Valid IsKey request.table request.key

/-- Whether the request that a call builds, if it builds one, has a valid address. -/
def Call.Result.IsAddressed {ρ α : Type} (wire : ρ → Request) (result : Call.Result ρ α) : Prop :=
  ∀ request, result.built? = some request → (wire request).IsAddressed

theorem Call.isAddressed_take {σ ρ α : Type} {wire : ρ → Request} (builder : σ)
    (attempt : Attempt σ Unit) :
    (take (ρ := ρ) (α := α) builder attempt).1.IsAddressed wire := by
  intro request built
  rw [built?_take] at built
  cases built

/-! ### Updates -/

namespace Update

variable {update : Update} {call : Call}

/-- Whether an update has a valid address. -/
def IsAddressed (update : Update) : Prop := Valid IsKey update.table update.key

theorem isAddressed_start {settings : Settings} {table : String} {key : List (String × Value)}
    (h : start settings table key = .ok update) : update.IsAddressed := by
  obtain ⟨name, named, h⟩ := Json.bind_eq_ok h
  obtain ⟨item, keyed, made⟩ := Json.bind_eq_ok h
  cases made
  exact ⟨Address.isName_of_table_eq_ok named, Address.isKey_of_key_eq_ok keyed⟩

/-- Calls that change no setting leave the address as it is. -/
theorem IsAddressed.step_of_no_setting (h : update.IsAddressed) (sets : call.setting? = none)
    (world : World) : (update.step world call).2.IsAddressed := by
  -- Once the request has been built, nothing is left to change it, and these calls do not look at
  -- the phase. So they do not change it before either.
  have fixed : (update.inPhase .finalized).Frozen ((update.inPhase .finalized).step world call).2 :=
    (Frozen.refl rfl).step world call
  have same := (step_inPhase sets world update .finalized .finalized).2
  have table : (update.step world call).2.table = update.table :=
    (congrArg Update.table same).symm.trans fixed.table
  have key : (update.step world call).2.key = update.key :=
    (congrArg Update.key same).symm.trans fixed.key
  rw [IsAddressed, table, key]
  exact h

theorem isAddressed_withPlan (h : update.IsAddressed) (audit : Audit) (plan : AuditPlan) :
    (update.withPlan audit plan).IsAddressed := by
  cases audit
  · exact h
  · exact h

theorem IsAddressed.step (h : update.IsAddressed) (world : World) (call : Call) :
    (update.step world call).2.IsAddressed := by
  cases call with
  | table name =>
      rw [step_table]
      refine invariant_change h (forall_whileBuilding_eq_ok (forall_map_eq_ok ?_))
      exact fun table named => ⟨Address.isName_of_table_eq_ok named, h.target⟩
  | key pairs =>
      rw [step_key]
      refine invariant_change h (forall_whileBuilding_eq_ok (forall_map_eq_ok ?_))
      exact fun item keyed => ⟨h.table, Address.isKey_of_key_eq_ok keyed⟩
  | mark attrs =>
      rw [step_mark]
      exact invariant_change h (forall_whileBuilding_eq_ok (forall_ok_eq_ok h))
  | disableStamp audit =>
      rw [step_disableStamp]
      refine invariant_change h (forall_whileBuilding_eq_ok (forall_ok_eq_ok ?_))
      exact isAddressed_withPlan h audit _
  | stamp audit stamp =>
      rw [step_stamp]
      refine invariant_change h (forall_whileBuilding_eq_ok (forall_map_eq_ok ?_))
      exact fun text _ => isAddressed_withPlan h audit _
  | _ => exact h.step_of_no_setting rfl world

theorem IsAddressed.result (h : update.IsAddressed) (world : World) (call : Call) :
    (update.step world call).1.IsAddressed .update := by
  intro request built
  rw [eq_request_of_built? built]
  exact h

end Update

/-! ### Reads -/

/-- Whether a read has a valid address. -/
def Read.IsAddressed {κ : Type} (IsTarget : κ → Prop) (read : Read κ) : Prop :=
  Valid IsTarget read.table read.target

theorem Read.isAddressed_start {κ : Type} {IsTarget : κ → Prop} {settings : Settings}
    {table : String} {target : κ} {read : Read κ}
    (h : Read.start settings table target = .ok read) (is : IsTarget target) :
    read.IsAddressed IsTarget := by
  obtain ⟨name, named, made⟩ := Json.bind_eq_ok h
  cases made
  exact ⟨Address.isName_of_table_eq_ok named, is⟩

theorem Read.IsAddressed.shape {κ : Type} {IsTarget : κ → Prop} {read : Read κ}
    (h : read.IsAddressed IsTarget) (shaping : Read.Shaping) :
    (read.shape shaping).IsAddressed IsTarget := by
  cases shaping <;> exact h

namespace SingleRead

variable {read : SingleRead}

theorem isAddressed_start {settings : Settings} {table : String} {key : List (String × Value)}
    (h : start settings table key = .ok read) : read.IsAddressed IsKey := by
  obtain ⟨item, keyed, started⟩ := Json.bind_eq_ok h
  exact Read.isAddressed_start started (Address.isKey_of_key_eq_ok keyed)

theorem isAddressed_step (h : read.IsAddressed IsKey) (client : Client) (call : Call) :
    (read.step client call).2.IsAddressed IsKey := by
  cases call with
  | shape shaping => exact h.shape shaping
  | table name =>
      rw [step_table]
      refine invariant_change h (forall_map_eq_ok fun table named => ?_)
      exact ⟨Address.isName_of_table_eq_ok named, h.target⟩
  | key pairs =>
      rw [step_key]
      refine invariant_change h (forall_map_eq_ok fun item keyed => ?_)
      exact ⟨h.table, Address.isKey_of_key_eq_ok keyed⟩
  | request => exact h
  | execute => exact h

theorem isAddressed_result (h : read.IsAddressed IsKey) (client : Client) (call : Call) :
    (read.step client call).1.IsAddressed .get := by
  cases call with
  | shape shaping => exact nofun
  | table name => exact ItemStore.Call.isAddressed_take _ _
  | key pairs => exact ItemStore.Call.isAddressed_take _ _
  | request | execute =>
      intro request built
      cases built
      exact h

theorem isAddressed_run (h : read.IsAddressed IsKey) (calls : List (Client × Call)) :
    ∀ result ∈ (read.run calls).1, result.IsAddressed .get :=
  ItemStore.Call.forall_results (P := Read.IsAddressed IsKey)
    (fun _ call kept => isAddressed_step kept call.1 call.2)
    (fun _ call kept => isAddressed_result kept call.1 call.2) h calls

end SingleRead

namespace BatchRead

variable {read : BatchRead}

theorem isAddressed_start {settings : Settings} {table : String}
    {keys : List (List (String × Value))} (h : start settings table keys = .ok read) :
    read.IsAddressed AreKeys := by
  obtain ⟨items, keyed, started⟩ := Json.bind_eq_ok h
  exact Read.isAddressed_start started (Address.areKeys_of_keys_eq_ok keyed)

theorem isAddressed_step (h : read.IsAddressed AreKeys) (client : Client) (call : Call) :
    (read.step client call).2.IsAddressed AreKeys := by
  cases call with
  | shape shaping => exact h.shape shaping
  | keys keys =>
      rw [step_keys]
      refine invariant_change h (forall_map_eq_ok fun items keyed => ?_)
      exact ⟨h.table, Address.areKeys_of_keys_eq_ok keyed⟩
  | table name => exact h
  | request => exact h
  | execute => exact h

theorem isAddressed_result (h : read.IsAddressed AreKeys) (client : Client) (call : Call) :
    (read.step client call).1.IsAddressed .batchGet := by
  cases call with
  | shape shaping => exact nofun
  | table name => exact ItemStore.Call.isAddressed_take _ _
  | keys keys => exact ItemStore.Call.isAddressed_take _ _
  | request | execute =>
      intro request built
      cases built
      exact ⟨_, _, rfl, h⟩

theorem isAddressed_run (h : read.IsAddressed AreKeys) (calls : List (Client × Call)) :
    ∀ result ∈ (read.run calls).1, result.IsAddressed .batchGet :=
  ItemStore.Call.forall_results (P := Read.IsAddressed AreKeys)
    (fun _ call kept => isAddressed_step kept call.1 call.2)
    (fun _ call kept => isAddressed_result kept call.1 call.2) h calls

end BatchRead

namespace AnyRead

/-- Whether a read has a valid address for its mode. -/
def IsAddressed : AnyRead → Prop
  | .single read => read.IsAddressed IsKey
  | .batch read => read.IsAddressed AreKeys

/-- Whether a request has a valid address, and whatever a read that is given out builds has. -/
def Result.IsAddressed : Result → Prop
  | .itemRequest request => (Request.get request).IsAddressed
  | .batchRequest request => (Request.batchGet request).IsAddressed
  | .single read => ∀ calls, ∀ result ∈ (read.run calls).1, result.IsAddressed .get
  | .batch read => ∀ calls, ∀ result ∈ (read.run calls).1, result.IsAddressed .batchGet
  | _ => True

variable {read : AnyRead}

theorem isAddressed_start {settings : Settings} {table : String} {keys : KeySelection}
    (h : start settings table keys = .ok read) : read.IsAddressed := by
  cases keys with
  | one key =>
      obtain ⟨typed, started, is⟩ := Json.map_eq_ok h
      rw [← is]
      exact SingleRead.isAddressed_start started
  | many keys =>
      obtain ⟨typed, started, is⟩ := Json.map_eq_ok h
      rw [← is]
      exact BatchRead.isAddressed_start started

/-- What holds of a wrapped read and of all that it may become in its mode, a call keeps. -/
theorem Side.Delegates.keeps {κ ι ρ α : Type} {side : Side κ ι ρ α} {client : Client}
    {typed : Read κ} {call : Call} {P : AnyRead → Prop} (h : side.Delegates client typed call)
    (before : P (side.wrap typed)) (own : ∀ own, P (side.wrap (side.step client typed own).2)) :
    P ((side.wrap typed).step call).2 := by
  cases has : side.own? call with
  | none =>
      rw [h.other has]
      exact before
  | some call =>
      rw [(h.own has).2]
      exact own call

theorem IsAddressed.step (h : read.IsAddressed) (call : Call) : (read.step call).2.IsAddressed := by
  cases read with
  | single typed =>
      exact (Side.delegates_single .echo typed call).keeps h (SingleRead.isAddressed_step h .echo)
  | batch typed =>
      exact (Side.delegates_batch .echo typed call).keeps h (BatchRead.isAddressed_step h .echo)

theorem isAddressed_take (attempt : Attempt AnyRead Unit) :
    (take (fun _ => .done) read attempt).1.IsAddressed := by
  unfold take
  rcases attempt read with ⟨_ | _, _⟩ <;> exact trivial

theorem IsAddressed.result (h : read.IsAddressed) (call : Call) :
    (read.step call).1.IsAddressed := by
  cases read with
  | single typed =>
      cases call with
      | table _ | key _ => exact isAddressed_take _
      | itemRequest => exact h
      | intoSingle => exact SingleRead.isAddressed_run h
      | _ => exact trivial
  | batch typed =>
      cases call with
      | table _ | keys _ => exact isAddressed_take _
      | batchRequest => exact ⟨_, _, rfl, h⟩
      | intoBatch => exact BatchRead.isAddressed_run h
      | _ => exact trivial

end AnyRead

/-! ### All builders -/

/--
Every request that is built in a run has a valid address. Its table has a name with a character that
is not white space; an update and a read of one item have a key with an attribute, and a read of
several items has one table and for it a list of such keys, which is not empty. This holds for every
builder that starts, whatever it is called with, and for the reads that a read of either mode gives
out.
-/
theorem addressed_of_started :
    (∀ settings table key update (calls : List (Update.World × Update.Call)),
        Update.start settings table key = .ok update →
          ∀ result ∈ (update.run calls).1, result.IsAddressed .update) ∧
      (∀ settings table key read (calls : List (Client × SingleRead.Call)),
        SingleRead.start settings table key = .ok read →
          ∀ result ∈ (read.run calls).1, result.IsAddressed .get) ∧
      (∀ settings table keys read (calls : List (Client × BatchRead.Call)),
        BatchRead.start settings table keys = .ok read →
          ∀ result ∈ (read.run calls).1, result.IsAddressed .batchGet) ∧
      ∀ settings table keys read (calls : List AnyRead.Call),
        AnyRead.start settings table keys = .ok read →
          ∀ result ∈ (read.run calls).1, result.IsAddressed := by
  refine ⟨?_, ?_, ?_, ?_⟩
  · intro settings table key update calls started
    exact Call.forall_results (P := Update.IsAddressed)
      (fun _ call kept => Update.IsAddressed.step kept call.1 call.2)
      (fun _ call kept => Update.IsAddressed.result kept call.1 call.2)
      (Update.isAddressed_start started) calls
  · intro settings table key read calls started
    exact SingleRead.isAddressed_run (SingleRead.isAddressed_start started) calls
  · intro settings table keys read calls started
    exact BatchRead.isAddressed_run (BatchRead.isAddressed_start started) calls
  · intro settings table keys read calls started
    exact Call.forall_results (P := AnyRead.IsAddressed)
      (fun _ call kept => AnyRead.IsAddressed.step kept call)
      (fun _ call kept => AnyRead.IsAddressed.result kept call)
      (AnyRead.isAddressed_start started) calls

/-- Calls with addresses that are not valid, before and behind a request. -/
def misaddressedCalls : List (Update.World × Update.Call) :=
  [(default, .table "\u2003"), (default, .key []), (default, .request), (default, .table ""),
    (default, .key [("id", .text "2")]), (default, .execute)]

theorem addressed_of_misaddressedCalls :
    ∃ update, Update.start {} "t" [("id", .text "1")] = .ok update ∧
      ((update.run misaddressedCalls).1.filterMap Call.Result.built?).length = 2 ∧
      ∀ result ∈ (update.run misaddressedCalls).1, result.IsAddressed .update := by
  obtain ⟨updates, -, -, -⟩ := addressed_of_started
  exact ⟨_, rfl, by decide +kernel, updates {} "t" [("id", .text "1")] _ misaddressedCalls rfl⟩

end ItemStore
