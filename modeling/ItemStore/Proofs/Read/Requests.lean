import Mathlib
import ItemStore.Proofs.Addresses
import ItemStore.Proofs.NameMap
import ItemStore.Proofs.Refusals
import ItemStore.Proofs.Runs

/-!
# ItemStore.Proofs.Read.Requests

What the requests of reads say, behind any run of calls.

A request is addressed to what the last call that was not refused has given, table and keys each on
their own (`holds_latest?`). The rest of it depends on nothing but the calls that shape the answer
(`alike_run`), so it is the same for reads of one and of several items (`AsksAs`).
-/

namespace ItemStore

/-! ### What is given last -/

/-- The value of the last pair with a name. -/
def Address.lastGiven? (pairs : List (String × Value)) (attr : String) : Option Value :=
  (pairs.filterMap fun pair => if pair.1 = attr then some pair.2 else none).getLast?

/-- Whether a key has the attributes that pairs name, each with the last value given for it. -/
def Address.IsKeyOf (pairs : List (String × Value)) (key : Item) : Prop :=
  ∀ attr, key.find? attr = lastGiven? pairs attr

/-- Whether keys have what lists of pairs name, one key for each list, in order. -/
def Address.AreKeysOf (lists : List (List (String × Value))) (keys : List Item) : Prop :=
  List.Forall₂ IsKeyOf lists keys

theorem Address.isKeyOf_ofList (pairs : List (String × Value)) :
    IsKeyOf pairs (NameMap.ofList pairs) := fun attr => NameMap.find?_ofList pairs attr

theorem Address.areKeysOf_map_ofList (lists : List (List (String × Value))) :
    AreKeysOf lists (lists.map NameMap.ofList) :=
  List.forall₂_map_right_iff.2 (List.forall₂_same.2 fun pairs _ => isKeyOf_ofList pairs)

namespace Call

variable {σ ι ρ α β : Type}

/-- What the last call has given that was not refused, of those that give something. -/
def latest? (given? : ι → Option β) (calls : List ι) (results : List (Result ρ α)) : Option β :=
  ((taken Result.refusal? calls results).filterMap fun made => given? made.1).getLast?

theorem latest?_cons (given? : ι → Option β) (call : ι) (rest : List ι) (result : Result ρ α)
    (results : List (Result ρ α)) :
    latest? given? (call :: rest) (result :: results) =
      (latest? given? rest results).or (if result.refusal?.isNone then given? call else none) := by
  unfold latest? taken
  rw [List.zip_cons_cons, List.filterMap_filter, List.filterMap_filter, getLast?_filterMap_cons]

/--
Whether a call leads from a builder that holds something to one that holds what it gives. A call
that gives nothing, or is refused, leaves what is held.
-/
def Takes (Holds : β → σ → Prop) (given? : Option β) (builder : σ) (outcome : Result ρ α × σ) :
    Prop :=
  ∀ first, Holds first builder →
    Holds ((if outcome.1.refusal?.isNone then given? else none).getD first) outcome.2

variable {Holds : β → σ → Prop} {builder : σ}

theorem takes_none {outcome : Result ρ α × σ}
    (keeps : ∀ value, Holds value builder → Holds value outcome.2) :
    Takes Holds none builder outcome := by
  intro first holds
  rw [ite_self]
  exact keeps first holds

theorem takes_change_map {γ : Type} {value : β} {result : Except Refusal γ} {set : γ → σ}
    (made : ∀ c, result = .ok c → Holds value (set c)) :
    Takes Holds (some value) builder (change (ρ := ρ) (α := α) builder (result.map set)) := by
  intro first holds
  cases result with
  | ok c => exact made c rfl
  | error refusal => exact holds

theorem takes_none_change_map {γ : Type} {result : Except Refusal γ} {set : γ → σ}
    (keeps : ∀ value c, Holds value builder → Holds value (set c)) :
    Takes Holds none builder (change (ρ := ρ) (α := α) builder (result.map set)) := by
  refine takes_none fun value holds => ?_
  exact invariant_change (P := Holds value) holds (forall_map_eq_ok fun c _ => keeps value c holds)

/-- Behind a run a builder holds what the last call has given that was not refused. -/
theorem holds_latest? {step : σ → ι → Result ρ α × σ} {given? : ι → Option β}
    (each : ∀ builder call, Takes Holds (given? call) builder (step builder call)) {first : β}
    (start : Holds first builder) (calls : List ι) :
    Holds ((latest? given? calls (run step builder calls).1).getD first)
      (run step builder calls).2 := by
  induction calls generalizing builder first with
  | nil => exact start
  | cons call rest ih =>
      -- What this call has left is what the rest of the run starts with.
      rw [run_cons, latest?_cons, Option.getD_or]
      exact ih (each builder call first start)

end Call

/-! ### Calls that shape the answer -/

/-- Whether reads, of one or of several items, are to be answered alike. -/
structure Read.Alike {κ τ : Type} (read : Read κ) (other : Read τ) : Prop where
  projection : read.projection = other.projection
  consistent : read.consistent = other.consistent

namespace Read

variable {κ τ υ ι r : Type} {read : Read κ} {other : Read τ}

theorem Alike.refl (read : Read κ) : read.Alike read := ⟨rfl, rfl⟩

theorem Alike.symm (h : read.Alike other) : other.Alike read :=
  ⟨h.projection.symm, h.consistent.symm⟩

theorem Alike.trans {third : Read υ} (h : read.Alike other) (next : other.Alike third) :
    read.Alike third :=
  ⟨h.projection.trans next.projection, h.consistent.trans next.consistent⟩

theorem Alike.shape (h : read.Alike other) (shaping : Shaping) :
    (read.shape shaping).Alike (other.shape shaping) := by
  cases shaping with
  | attr name => exact ⟨congrArg (·.pushLiteral name) h.projection, h.consistent⟩
  | attrs names =>
      exact ⟨congrArg (fun projection => names.foldl _ projection) h.projection, h.consistent⟩
  | strong => exact ⟨h.projection, rfl⟩

/-- The read behind calls that shape the answer. -/
def shapeAll (read : Read κ) (shapings : List Shaping) : Read κ := shapings.foldl shape read

theorem Alike.shapeAll (h : read.Alike other) (shapings : List Shaping) :
    (read.shapeAll shapings).Alike (other.shapeAll shapings) := by
  induction shapings generalizing read other with
  | nil => exact h
  | cons shaping rest ih => exact ih (h.shape shaping)

theorem shapeAll_append (read : Read κ) (shapings others : List Shaping) :
    read.shapeAll (shapings ++ others) = (read.shapeAll shapings).shapeAll others :=
  List.foldl_append

theorem consistent_shapeAll (read : Read κ) (shapings : List Shaping) :
    (read.shapeAll shapings).consistent = true ↔ read.consistent = true ∨ .strong ∈ shapings := by
  induction shapings generalizing read with
  | nil => simp [shapeAll]
  | cons shaping rest ih =>
      rw [← List.singleton_append, shapeAll_append, ih]
      cases shaping <;> simp [shapeAll, shape]

/-- Only calls that shape the answer have an influence on it. -/
theorem alike_run {step : Read κ → ι → r × Read κ} {shaping? : ι → Option Shaping}
    (each : ∀ read call, (step read call).2.Alike (read.shapeAll (shaping? call).toList))
    (read : Read κ) (calls : List ι) :
    (Call.run step read calls).2.Alike (read.shapeAll (calls.filterMap shaping?)) := by
  induction calls generalizing read with
  | nil => exact .refl read
  | cons call rest ih =>
      have split : (call :: rest).filterMap shaping? =
          (shaping? call).toList ++ rest.filterMap shaping? := by
        rw [List.filterMap_cons]
        cases shaping? call <;> rfl
      rw [split, shapeAll_append]
      exact (ih _).trans ((each read call).shapeAll _)

/-- Strong consistency is asked for if the settings do so or some call has. -/
theorem Alike.consistentRead_eq {shapings : List Shaping}
    (h : other.Alike (read.shapeAll shapings)) :
    other.consistentRead =
      if read.consistent = true ∨ .strong ∈ shapings then some true else none := by
  rw [consistentRead, h.consistent]
  simp only [consistent_shapeAll]

theorem start_eq {settings : Settings} {table : String} {target : κ}
    (h : Read.start settings table target = .ok read) :
    read = { table, target, consistent := settings.consistentRead } := by
  obtain ⟨name, named, made⟩ := Json.bind_eq_ok h
  cases made
  rw [(Address.table_eq_ok_iff.1 named).2]

/-- A change of the table or of what is looked for, made or refused, leaves the answer alike. -/
theorem alike_change_map {ρ α β : Type} {result : Except Refusal β} {set : β → Read κ}
    (keeps : ∀ b, (set b).Alike read) :
    (Call.change (ρ := ρ) (α := α) read (result.map set)).2.Alike read :=
  Call.invariant_change (P := (Alike · read)) (.refl read) (Call.forall_map_eq_ok fun b _ => keeps b)

/-- Whether a read is of a table. -/
def HasTable (table : String) (read : Read κ) : Prop := read.table = table

/-- Whether what a read looks for is made of what has been given. -/
def LooksFor {β : Type} (IsMadeOf : β → κ → Prop) (given : β) (read : Read κ) : Prop :=
  IsMadeOf given read.target

theorem HasTable.shape {table : String} (h : read.HasTable table) (shaping : Shaping) :
    (read.shape shaping).HasTable table := by
  cases shaping <;> exact h

theorem LooksFor.shape {β : Type} {IsMadeOf : β → κ → Prop} {given : β}
    (h : read.LooksFor IsMadeOf given) (shaping : Shaping) :
    (read.shape shaping).LooksFor IsMadeOf given := by
  cases shaping <;> exact h

end Read

/-! ### Reads of one item -/

namespace SingleRead

open ItemStore.Call (Takes takes_change_map takes_none takes_none_change_map latest? holds_latest?)

variable {read : SingleRead}

/-- The table that a call gives. -/
def Call.table? : Call → Option String
  | .table name => some name
  | _ => none

/-- The key that a call gives. -/
def Call.key? : Call → Option (List (String × Value))
  | .key pairs => some pairs
  | _ => none

/-- What a call says about the answer. -/
def Call.shaping? : Call → Option Read.Shaping
  | .shape shaping => some shaping
  | _ => none

theorem start_eq {settings : Settings} {table : String} {key : List (String × Value)}
    (h : start settings table key = .ok read) :
    read = { table, target := NameMap.ofList key, consistent := settings.consistentRead } := by
  obtain ⟨item, keyed, started⟩ := Json.bind_eq_ok h
  rw [Read.start_eq started, (Address.key_eq_ok_iff.1 keyed).2]

theorem alike_step (client : Client) (read : SingleRead) (call : Call) :
    (read.step client call).2.Alike (read.shapeAll call.shaping?.toList) := by
  cases call with
  | table name =>
      rw [step_table]
      exact Read.alike_change_map fun _ => ⟨rfl, rfl⟩
  | key pairs =>
      rw [step_key]
      exact Read.alike_change_map fun _ => ⟨rfl, rfl⟩
  | shape shaping => exact .refl _
  | request => exact .refl _
  | execute => exact .refl _

theorem alike_run (read : SingleRead) (calls : List (Client × Call)) :
    (read.run calls).2.Alike (read.shapeAll (calls.filterMap fun call => call.2.shaping?)) :=
  Read.alike_run (fun read call => alike_step call.1 read call.2) read calls

theorem takes_table (client : Client) (read : SingleRead) (call : Call) :
    Takes Read.HasTable call.table? read (read.step client call) := by
  cases call with
  | table name =>
      rw [step_table]
      exact takes_change_map fun table named => (Address.table_eq_ok_iff.1 named).2
  | key pairs =>
      rw [step_key]
      exact takes_none_change_map fun _ _ => id
  | shape shaping => exact takes_none fun _ holds => holds.shape shaping
  | request => exact takes_none fun _ => id
  | execute => exact takes_none fun _ => id

theorem takes_key (client : Client) (read : SingleRead) (call : Call) :
    Takes (Read.LooksFor Address.IsKeyOf) call.key? read (read.step client call) := by
  cases call with
  | key pairs =>
      rw [step_key]
      refine takes_change_map fun item keyed => ?_
      rw [(Address.key_eq_ok_iff.1 keyed).2]
      exact Address.isKeyOf_ofList pairs
  | table name =>
      rw [step_table]
      exact takes_none_change_map fun _ _ => id
  | shape shaping => exact takes_none fun _ holds => holds.shape shaping
  | request => exact takes_none fun _ => id
  | execute => exact takes_none fun _ => id

/--
Whether a request says what the calls of a run do, behind a start with a table and a key. The calls
that were refused are told by their results.
-/
structure Reflects (settings : Settings) (table : String) (key : List (String × Value))
    (calls : List (Client × Call)) (results : List Result) (request : GetRequest) : Prop where
  /-- The table is the one given last. -/
  table : request.table = (latest? (fun call => call.2.table?) calls results).getD table
  /-- The key is the one given last. -/
  key : Address.IsKeyOf ((latest? (fun call => call.2.key?) calls results).getD key) request.key
  /-- Strong consistency is asked for by the settings, or by some call. -/
  consistentRead : request.consistentRead =
    if settings.consistentRead = true ∨ .strong ∈ calls.filterMap fun call => call.2.shaping? then
      some true
    else none

theorem reflects_run {settings : Settings} {table : String} {key : List (String × Value)}
    (started : start settings table key = .ok read) (calls : List (Client × Call)) :
    Reflects settings table key calls (read.run calls).1 (read.run calls).2.request := by
  have is := start_eq started
  have tabled : read.HasTable table := by
    rw [is]
    rfl
  have keyed : read.LooksFor Address.IsKeyOf key := by
    rw [is]
    exact Address.isKeyOf_ofList key
  have consistent : read.consistent = settings.consistentRead := by rw [is]
  refine ⟨?_, ?_, ?_⟩
  · exact holds_latest? (fun read call => takes_table call.1 read call.2) tabled calls
  · exact holds_latest? (fun read call => takes_key call.1 read call.2) keyed calls
  · have last := (alike_run read calls).consistentRead_eq
    rw [consistent] at last
    exact last

end SingleRead

/-! ### Reads of several items -/

namespace BatchRead

open ItemStore.Call (Takes takes_change_map takes_none takes_none_change_map latest? holds_latest?)

variable {read : BatchRead}

/-- The keys that a call gives. -/
def Call.keys? : Call → Option (List (List (String × Value)))
  | .keys lists => some lists
  | _ => none

/-- What a call says about the answer. -/
def Call.shaping? : Call → Option Read.Shaping
  | .shape shaping => some shaping
  | _ => none

theorem start_eq {settings : Settings} {table : String} {keys : List (List (String × Value))}
    (h : start settings table keys = .ok read) :
    read = { table, target := keys.map NameMap.ofList, consistent := settings.consistentRead } := by
  obtain ⟨items, keyed, started⟩ := Json.bind_eq_ok h
  rw [Read.start_eq started, (Address.keys_eq_ok_iff.1 keyed).2.2]

theorem alike_step (client : Client) (read : BatchRead) (call : Call) :
    (read.step client call).2.Alike (read.shapeAll call.shaping?.toList) := by
  cases call with
  | keys lists =>
      rw [step_keys]
      exact Read.alike_change_map fun _ => ⟨rfl, rfl⟩
  | table name => exact .refl _
  | shape shaping => exact .refl _
  | request => exact .refl _
  | execute => exact .refl _

theorem alike_run (read : BatchRead) (calls : List (Client × Call)) :
    (read.run calls).2.Alike (read.shapeAll (calls.filterMap fun call => call.2.shaping?)) :=
  Read.alike_run (fun read call => alike_step call.1 read call.2) read calls

/-- No call changes the table. -/
theorem hasTable_step {table : String} (h : read.HasTable table) (client : Client) (call : Call) :
    (read.step client call).2.HasTable table := by
  cases call with
  | keys lists =>
      rw [step_keys]
      exact ItemStore.Call.invariant_change (P := Read.HasTable table) h
        (ItemStore.Call.forall_map_eq_ok fun _ _ => h)
  | shape shaping => exact h.shape shaping
  | table name => exact h
  | request => exact h
  | execute => exact h

theorem hasTable_run {settings : Settings} {table : String} {keys : List (List (String × Value))}
    (started : start settings table keys = .ok read) (calls : List (Client × Call)) :
    (read.run calls).2.HasTable table := by
  refine ItemStore.Call.invariant_run (P := Read.HasTable table)
    (fun _ call kept => hasTable_step kept call.1 call.2) ?_ calls
  rw [start_eq started]
  rfl

theorem takes_keys (client : Client) (read : BatchRead) (call : Call) :
    Takes (Read.LooksFor Address.AreKeysOf) call.keys? read (read.step client call) := by
  cases call with
  | keys lists =>
      rw [step_keys]
      refine takes_change_map fun items keyed => ?_
      rw [(Address.keys_eq_ok_iff.1 keyed).2.2]
      exact Address.areKeysOf_map_ofList lists
  | shape shaping => exact takes_none fun _ holds => holds.shape shaping
  | table name => exact takes_none fun _ => id
  | request => exact takes_none fun _ => id
  | execute => exact takes_none fun _ => id

/--
Whether a request says what the calls of a run do, behind a start with a table and keys. The calls
that were refused are told by their results.
-/
structure Reflects (settings : Settings) (table : String) (keys : List (List (String × Value)))
    (calls : List (Client × Call)) (results : List Result) (entry : TableKeys) : Prop where
  /-- The keys are those given last, in order and as often. -/
  keys : Address.AreKeysOf ((latest? (fun call => call.2.keys?) calls results).getD keys)
    entry.keys
  /-- Strong consistency is asked for by the settings, or by some call. -/
  consistentRead : entry.consistentRead =
    if settings.consistentRead = true ∨ .strong ∈ calls.filterMap fun call => call.2.shaping? then
      some true
    else none

theorem reflects_run {settings : Settings} {table : String}
    {keys : List (List (String × Value))} (started : start settings table keys = .ok read)
    (calls : List (Client × Call)) :
    ∃ entry, (read.run calls).2.request.tables.entries = [(table, entry)] ∧
      Reflects settings table keys calls (read.run calls).1 entry := by
  have is := start_eq started
  have tabled := hasTable_run started calls
  have keyed : read.LooksFor Address.AreKeysOf keys := by
    rw [is]
    exact Address.areKeysOf_map_ofList keys
  have consistent : read.consistent = settings.consistentRead := by rw [is]
  refine ⟨_, by rw [← tabled]; rfl, ?_, ?_⟩
  · exact holds_latest? (fun read call => takes_keys call.1 read call.2) keyed calls
  · have last := (alike_run read calls).consistentRead_eq
    rw [consistent] at last
    exact last

end BatchRead

/-! ### Reads of either kind -/

/-- Whether a request of one item asks for what a table's entry does in one of several items. -/
structure GetRequest.AsksAs (request : GetRequest) (entry : TableKeys) : Prop where
  projection : request.projection = entry.projection
  names : request.names = entry.names
  consistentRead : request.consistentRead = entry.consistentRead

theorem Read.Alike.asksAs {single : SingleRead} {batch : BatchRead} (h : single.Alike batch) :
    ∃ entry, batch.request.tables.entries = [(batch.table, entry)] ∧
      single.request.AsksAs entry := by
  refine ⟨_, rfl, ?_, ?_, ?_⟩
  · exact congrArg Expression.Projection.expression? h.projection
  · exact congrArg Expression.Projection.names h.projection
  · exact congrArg (fun strong => if strong = true then some true else none) h.consistent

/--
The requests of reads say what the calls of the run do, those not counted that were refused. A read
of one item has the table and the key given last, a read of several items has the table that it was
started with and the keys given last, in order and as often; each key has the attributes that are
named for it, with the values given last. Strong consistency is asked for exactly if the settings do
so or some call does. Reads of one and of several items with the same settings ask for the same if
the calls that shape the answer are the same, whatever else is called.
-/
theorem requests_reflect_runs :
    (∀ settings table key read (calls : List (Client × SingleRead.Call)),
        SingleRead.start settings table key = .ok read →
          SingleRead.Reflects settings table key calls (read.run calls).1
            (read.run calls).2.request) ∧
      (∀ settings table keys read (calls : List (Client × BatchRead.Call)),
        BatchRead.start settings table keys = .ok read →
          ∃ entry, (read.run calls).2.request.tables.entries = [(table, entry)] ∧
            BatchRead.Reflects settings table keys calls (read.run calls).1 entry) ∧
      ∀ settings table key single other keys batch,
        SingleRead.start settings table key = .ok single →
          BatchRead.start settings other keys = .ok batch →
            ∀ (calls : List (Client × SingleRead.Call)) (others : List (Client × BatchRead.Call)),
              (calls.filterMap fun call => call.2.shaping?) =
                  others.filterMap (fun call => call.2.shaping?) →
                ∃ entry, (batch.run others).2.request.tables.entries = [(other, entry)] ∧
                  (single.run calls).2.request.AsksAs entry := by
  refine ⟨?_, ?_, ?_⟩
  · intro settings table key read calls started
    exact SingleRead.reflects_run started calls
  · intro settings table keys read calls started
    exact BatchRead.reflects_run started calls
  · intro settings table key single other keys batch started startedToo calls others same
    have before : batch.Alike single := by
      rw [SingleRead.start_eq started, BatchRead.start_eq startedToo]
      exact ⟨rfl, rfl⟩
    have behind := (BatchRead.alike_run batch others).trans (before.shapeAll _)
    rw [← same] at behind
    rw [← BatchRead.hasTable_run startedToo others]
    exact ((SingleRead.alike_run single calls).trans behind.symm).asksAs

/-- Calls on a read of one item. The first two are refused, and the key names an attribute twice. -/
def singleCalls : List (Client × SingleRead.Call) :=
  [(.echo, .table " "), (.echo, .key []), (.echo, .shape .strong),
    (.echo, .key [("id", .text "2"), ("id", .text "3")]), (.echo, .shape (.attr "a-b"))]

/-- Calls on a read of several items, the first and the last of which are refused. -/
def batchCalls : List (Client × BatchRead.Call) :=
  [(.echo, .table "other"), (.echo, .shape .strong), (.echo, .shape (.attr "a-b")),
    (.echo, .keys [[("id", .text "2")], [("id", .text "2")]]), (.echo, .keys [[]])]

theorem requests_reflect_runs_of_refusals :
    ∃ single batch entry, SingleRead.start {} "t" [("id", .text "1")] = .ok single ∧
      BatchRead.start {} "t" [[("id", .text "1")]] = .ok batch ∧
      SingleRead.Reflects {} "t" [("id", .text "1")] singleCalls (single.run singleCalls).1
        (single.run singleCalls).2.request ∧
      (single.run singleCalls).2.request.key.find? "id" = some (.text "3") ∧
      BatchRead.Reflects {} "t" [[("id", .text "1")]] batchCalls (batch.run batchCalls).1 entry ∧
      ∃ other, (batch.run batchCalls).2.request.tables.entries = [("t", other)] ∧
        (single.run singleCalls).2.request.AsksAs other := by
  have single : SingleRead.start {} "t" [("id", .text "1")] = .ok _ := rfl
  have batch : BatchRead.start {} "t" [[("id", .text "1")]] = .ok _ := rfl
  obtain ⟨ofOne, ofSeveral, alike⟩ := requests_reflect_runs
  obtain ⟨entry, -, reflects⟩ := ofSeveral _ _ _ _ batchCalls batch
  exact ⟨_, _, entry, single, batch, ofOne _ _ _ _ singleCalls single, by decide +kernel, reflects,
    alike _ _ _ _ _ _ _ single batch singleCalls batchCalls rfl⟩

end ItemStore
