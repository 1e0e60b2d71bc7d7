import Mathlib
import ItemStore.Proofs.Expression.Bodies
import ItemStore.Proofs.NameMap
import ItemStore.Proofs.Read.Attributes
import ItemStore.Proofs.Update.Growth
import ItemStore.Proofs.Update.History

/-!
# ItemStore.Proofs.PlainPlaceholders

Names of letters and digits have plain placeholders, in which the body is the name.

Of all names only the name itself has it as a candidate, so no other name can take it away. What can
is a reservation before the name is first asked for (`ReservedFirst`), and nothing else
(`bodyOf_run_iff`). Updates reserve one body, which is no such name, and reads reserve none. So the
expressions of both have these names in their plain placeholders, whatever else has been called.
-/

namespace ItemStore

open Expression (Form Placeholders Projection Token isAlphanumeric joinCondition namePlaceholder
  valuePlaceholder)

/-! ### Registries -/

namespace Expression.Placeholders

variable {registry : Placeholders} {name : String}

/-- A body that is reserved takes nothing away from a name, unless it is the plain one and free. -/
theorem Spares.reserve (h : registry.Spares name) {body : String}
    (other : body = name → registry.bodies.find? name ≠ none) :
    (registry.reserve body).Spares name := by
  rcases h with has | ⟨none, free⟩
  · exact .inl has
  · refine .inr ⟨none, ?_⟩
    have ne : name ≠ body := fun eq => other eq.symm none
    rw [Placeholders.reserve, NameSet.contains_add, free, beq_false_of_ne ne]
    rfl

/-- Whether calls reserve the plain body of a name before they ask for the name. -/
def ReservedFirst (calls : List Call) (name : String) : Prop :=
  ∃ before after, calls = before ++ .reserve name :: after ∧ name ∉ asked before

theorem ReservedFirst.append {calls : List Call} (h : ReservedFirst calls name)
    (more : List Call) : ReservedFirst (calls ++ more) name := by
  obtain ⟨before, after, rfl, new⟩ := h
  exact ⟨before, after ++ more, List.append_assoc _ _ _, new⟩

/-- Before the body of a name is reserved too early, the name has it or can still get it. -/
theorem spares_run (alphanumeric : isAlphanumeric name = true) {calls : List Call}
    (inTime : ¬ReservedFirst calls name) : (run ∅ calls).2.Spares name := by
  induction calls using List.reverseRecOn with
  | nil => exact .inr ⟨rfl, rfl⟩
  | append_singleton calls call ih =>
      have spares := ih fun early => inTime (early.append [call])
      rw [run, ItemStore.Call.run_append]
      cases call with
      | reserve body =>
          refine spares.reserve fun same none => inTime ⟨calls, [], by rw [same], fun mem => ?_⟩
          rw [find?_of_mem_asked ∅ mem] at none
          cases none
      | name attr => exact spares.body alphanumeric attr
      | value attr => exact spares.body alphanumeric attr

/-- A name has its plain body exactly if that was not reserved before the name was asked for. -/
theorem bodyOf_run_iff (alphanumeric : isAlphanumeric name = true) (calls : List Call) :
    (run ∅ calls).2.bodyOf name = name ↔ ¬ReservedFirst calls name := by
  have spared : ¬ReservedFirst calls name → (run ∅ calls).2.bodyOf name = name :=
    fun inTime => (spares_run alphanumeric inTime).body_eq alphanumeric
  refine ⟨fun plain early => ?_, spared⟩
  obtain ⟨before, after, rfl, new⟩ := early
  -- When the body is reserved the name has none, so it never gets this one.
  have none : (run ∅ before).2.bodies.find? name = none := by
    have without := mt (contains_bodies_run ∅ before name).1 (not_or.2 ⟨Bool.false_ne_true, new⟩)
    exact Option.not_isSome_iff_eq_none.1 without
  have denies := ((denies_reserve none name).run after).body name
  have later : (run ∅ (before ++ .reserve name :: after)).2 =
      (((run ∅ before).2.reserve name).run after).2 := by
    rw [run, ItemStore.Call.run_append]
    rfl
  have found := find?_body (run ∅ (before ++ .reserve name :: after)).2 name
  rw [show ((run ∅ (before ++ .reserve name :: after)).2.body name).1 = name from plain,
    later] at found
  exact denies.other found

/-- A body that a name of letters and digits has is the name, where the name is spared. -/
theorem Spares.eq_of_find? (h : registry.Spares name) {body : String}
    (has : registry.bodies.find? name = some body) : body = name := by
  rcases h with plain | ⟨none, -⟩
  · exact Option.some.inj (has.symm.trans plain)
  · rw [none] at has
    cases has

end Expression.Placeholders

/-! ### Updates -/

namespace Update

variable {update changed : Update} {world : World} {w : Write}

/-- Whether the expressions of an update have a write in the plain placeholders of its attribute. -/
structure Shows (update : Update) (w : Write) : Prop where
  fragment : w.form.text w.attr ∈ update.clauses.set
  name : update.names.contains (namePlaceholder w.attr) = true
  value : update.values.contains (valuePlaceholder w.attr) = true

theorem Shows.retains (h : update.Shows w) (kept : update.Retains changed) : changed.Shows w where
  fragment := (kept.clauses .set).subset h.fragment
  name := kept.names _ h.name
  value := kept.values _ h.value

/-- What a write does shows it. Locks behind the first one find their fragment there. -/
theorem Puts.shows (puts : update.Puts w changed) (regular : update.placeholders.Regular)
    (alphanumeric : isAlphanumeric w.attr = true)
    (again : update.locked = true → w.form = .increment →
      w.form.text w.attr ∈ update.clauses.set) : changed.Shows w := by
  have plain := regular.body_eq alphanumeric
  constructor
  · rw [puts.clauses, plain]
    split
    · rename_i both
      exact again both.2 both.1
    · rw [set_pushUnique]
      split
      · rename_i there
        exact List.mem_append_left _ there
      · exact List.mem_append_right _ List.mem_cons_self
  · rw [puts.names, plain, NameMap.contains, NameMap.find?_insert_self]
    rfl
  · rw [NameMap.contains, puts.values, plain, if_pos rfl]
    split <;> rfl

theorem shows_foldl_write (regular : update.placeholders.Regular) {ws : List Write}
    (plain : ∀ w ∈ ws, w.form ≠ .increment) (mem : w ∈ ws)
    (alphanumeric : isAlphanumeric w.attr = true) : (ws.foldl write update).Shows w := by
  obtain ⟨before, after, rfl⟩ := List.append_of_mem mem
  rw [List.foldl_append, List.foldl_cons]
  have written := (puts_write (before.foldl write update) (plain w mem)).shows
    (regular_foldl_write regular before) alphanumeric fun _ is => absurd is (plain w mem)
  exact foldl_write_induction (P := fun update => update.Shows w)
    (fun _ next _ shown => shown.retains (.write _ next)) written

/-- Whether an update that is locked shows what locks write. -/
def ShowsLock (update : Update) : Prop :=
  update.locked = true → ∀ revision, update.Shows (lockWrite revision)

/-- The writes of a call are shown behind it, and the names tell their attributes. -/
theorem shows_step (regular : update.placeholders.Regular) (lock : update.ShowsLock)
    {call : Call} (mem : w ∈ call.effect.writes world update)
    (alphanumeric : isAlphanumeric w.attr = true) :
    (update.step world call).2.Shows w ∧
      (update.step world call).2.names.find? (namePlaceholder w.attr) = some w.attr := by
  have does := step_does world update call
  rcases mem_effect_writes mem with ⟨revision, is, rfl⟩ | ⟨payload, is, among⟩
  · rw [is] at does
    have puts := puts_lock regular revision
    have same : (update.step world call).2 = update.lock revision := does
    rw [same]
    refine ⟨puts.shows regular alphanumeric fun locked _ => (lock locked revision).fragment, ?_⟩
    rw [puts.names, regular.body_eq alphanumeric, NameMap.find?_insert_self]
  · rw [is] at does
    have same : (update.step world call).2 = update.merge world.clock payload := does
    have shown := shows_foldl_write regular (fun _ => form_ne_increment_of_mem_writes) among
      alphanumeric
    have regularBehind := regular_foldl_write regular (update.writes world.clock payload)
    obtain ⟨body, has, named⟩ := isNamed_foldl_write regular among
    rw [(regularBehind.spares alphanumeric).eq_of_find? has] at named
    rw [same, merge_eq]
    exact ⟨⟨shown.fragment, shown.name, shown.value⟩, named⟩

theorem ShowsLock.step (h : update.ShowsLock) (regular : update.placeholders.Regular)
    (world : World) (call : Call) : (update.step world call).2.ShowsLock := by
  intro locked revision
  by_cases is : ∃ other, call.effect = .lock other
  · obtain ⟨other, is⟩ := is
    have mem : lockWrite other ∈ call.effect.writes world update := by
      rw [is]
      exact List.mem_cons_self
    have shown := (shows_step regular h mem
      (by decide : isAlphanumeric revisionAttr = true)).1
    exact ⟨shown.fragment, shown.name, shown.value⟩
  · have kept := (step_does world update call).locked_eq fun other eq => is ⟨other, eq⟩
    exact (h (kept ▸ locked) revision).retains (.step regular world call)

theorem showsLock_run (fresh : update.Fresh) (calls : List (World × Call)) :
    (update.run calls).2.placeholders.Regular ∧ (update.run calls).2.ShowsLock := by
  refine ItemStore.Call.invariant_run
    (P := fun update : Update => update.placeholders.Regular ∧ update.ShowsLock)
    (fun update call kept => ⟨?_, kept.2.step kept.1 call.1 call.2⟩)
    ⟨fresh.placeholders ▸ Placeholders.regular_start, fun locked => ?_⟩ calls
  · exact (step_does call.1 update call.2).regular kept.1
  · rw [fresh.locked] at locked
    cases locked

/-- Whether runs of an update have a name in its plain placeholders. -/
structure ShowsPlainly (update : Update) (calls : List (World × Call)) (name : String) :
    Prop where
  /-- The name has its plain placeholders, or is the next to get them. -/
  placeholders : ((update.run calls).2.placeholders.name name).1 = "#" ++ name ∧
    ((update.run calls).2.placeholders.value name).1 = ":" ++ name
  /-- All that is written to the attribute is shown. -/
  shows : ∀ w ∈ update.history calls, w.attr = name → (update.run calls).2.Shows w
  /-- A call that writes to the attribute tells its name. -/
  tells : ∀ before call after, calls = before ++ call :: after →
    ∀ w ∈ call.2.effect.writes call.1 (update.run before).2, w.attr = name →
      (update.run (before ++ [call])).2.names.find? ("#" ++ name) = some name
  /-- The first lock checks the revision by its plain placeholders. -/
  checks : name = revisionAttr → ∀ before world revision after,
    calls = before ++ (world, .lock (some revision)) :: after →
      (update.run before).2.locked = false →
        (update.run (before ++ [(world, .lock (some revision))])).2.condition =
          some (joinCondition (update.run before).2.condition ("#" ++ name ++ " = :" ++ name) .and)

theorem showsPlainly_run (fresh : update.Fresh) (calls : List (World × Call)) {name : String}
    (alphanumeric : isAlphanumeric name = true) : update.ShowsPlainly calls name := by
  have regular := regular_run fresh calls
  have each : ∀ before call, ∀ w ∈ call.2.effect.writes call.1 (update.run before).2,
      w.attr = name → (update.run (before ++ [call])).2.Shows w ∧
        (update.run (before ++ [call])).2.names.find? ("#" ++ name) = some name := by
    intro before call w mem attr
    obtain ⟨regular, lock⟩ := showsLock_run fresh before
    subst attr
    rw [run_append]
    exact shows_step regular lock mem alphanumeric
  refine ⟨?_, ?_, ?_, ?_⟩
  · have plain := regular.body_eq alphanumeric
    exact ⟨congrArg namePlaceholder plain, congrArg valuePlaceholder plain⟩
  · intro w mem attr
    obtain ⟨before, call, after, rfl, made⟩ := mem_history_iff.1 mem
    have shown := (each before call w made attr).1
    rw [List.append_cons, run_append]
    exact shown.retains (.run (regular_run fresh _) after)
  · intro before call after _ w mem attr
    exact (each before call w mem attr).2
  · rintro rfl before world revision after _ unlocked
    have puts := puts_lock (regular_run fresh before) revision
    have check : Form.plain.text revisionAttr = "#" ++ revisionAttr ++ " = :" ++ revisionAttr := by
      decide
    rw [run_append, ← check]
    exact puts.condition.trans (if_pos ⟨rfl, unlocked⟩)

end Update

/-! ### Reads -/

namespace Expression.Projection

open Placeholders (Spares)

/-- Whether a projection has a name in its plain placeholder, if not as it is. -/
structure ShowsPlainly (projection : Projection) (name : String) : Prop where
  /-- The name has its plain placeholder, or is the next to get it. -/
  placeholder : (projection.placeholders.name name).1 = "#" ++ name
  /-- The token of the attribute is the name as it is, or the placeholder. -/
  texts : ∀ token ∈ projection.tokens, token.attr = name →
    token.text = name ∨ token.text = "#" ++ name
  /-- No other placeholder stands for the attribute. -/
  names : ∀ ph, projection.names.find? ph = some name → ph = "#" ++ name

theorem spares_pushAll {name : String} (alphanumeric : isAlphanumeric name = true)
    {projection : Projection} (h : projection.placeholders.Spares name)
    (requests : List Request) : (projection.pushAll requests).placeholders.Spares name := by
  induction requests generalizing projection with
  | nil => exact h
  | cons request rest ih =>
      refine ih ?_
      rw [push_eq]
      split
      · split
        · exact h
        · exact h.body alphanumeric request.attr
      · exact h

theorem showsPlainly_pushAll {name : String} (alphanumeric : isAlphanumeric name = true)
    (requests : List Request) : ((∅ : Projection).pushAll requests).ShowsPlainly name := by
  have tracks := tracks_empty.pushAll requests
  have spares : ((∅ : Projection).pushAll requests).placeholders.Spares name :=
    spares_pushAll alphanumeric (.inr ⟨rfl, rfl⟩) requests
  rw [List.nil_append] at tracks
  generalize (∅ : Projection).pushAll requests = projection at tracks spares
  have plain : ∀ body, Token.placeholder name body ∈ projection.tokens → body = name :=
    fun body mem => spares.eq_of_find? (tracks.find?_bodies mem)
  refine ⟨congrArg namePlaceholder (spares.body_eq alphanumeric), ?_, ?_⟩
  · intro token mem attr
    cases token with
    | literal other => exact .inl attr
    | placeholder other body =>
        obtain rfl : other = name := attr
        exact .inr (congrArg namePlaceholder (plain body mem))
  · intro ph stands
    rw [Projection.names, NameMap.find?_ofList] at stands
    obtain ⟨token, mem, is⟩ := List.mem_filterMap.1 (Entries.mem_of_last? stands)
    cases token with
    | literal other => cases is
    | placeholder other body =>
        obtain ⟨rfl, rfl⟩ := Prod.mk.inj (Option.some.inj is)
        exact congrArg namePlaceholder (plain body mem)

/-- What holds behind any requests holds of what makes them of a projection in its calls. -/
theorem showsPlainly_run {name : String} (alphanumeric : isAlphanumeric name = true)
    {σ ι r : Type} {step : σ → ι → r × σ} {projection : σ → Projection}
    {requests : ι → List Request}
    (each : ∀ builder call, projection (step builder call).2 =
      (projection builder).pushAll (requests call))
    {builder : σ} (start : projection builder = ∅) (calls : List ι) :
    (projection (ItemStore.Call.run step builder calls).2).ShowsPlainly name := by
  rw [projection_run projection each builder calls, start]
  exact showsPlainly_pushAll alphanumeric _

end Expression.Projection

/-! ### Runs -/

/--
The placeholders of a name of letters and digits are plain, whatever other names were used before. A
registry gives them out behind just those calls that do not reserve the name as a body before they
ask for it. Updates show all that they write to an attribute of that name in its plain placeholders,
also where the caller adds fragments, names and values of his own, and reads ask for the attribute
by its plain placeholder or its name as it is.
-/
theorem plain_placeholders {name : String} (alphanumeric : isAlphanumeric name = true) :
    (∀ calls, (((Placeholders.run ∅ calls).2.name name).1 = "#" ++ name ∧
        ((Placeholders.run ∅ calls).2.value name).1 = ":" ++ name) ↔
      ¬Placeholders.ReservedFirst calls name) ∧
    (∀ settings table key update (calls : List (Update.World × Update.Call)),
      Update.start settings table key = .ok update → update.ShowsPlainly calls name) ∧
    (∀ settings table key read (calls : List (Client × SingleRead.Call)),
      SingleRead.start settings table key = .ok read →
        (read.run calls).2.projection.ShowsPlainly name) ∧
    (∀ settings table keys read (calls : List (Client × BatchRead.Call)),
      BatchRead.start settings table keys = .ok read →
        (read.run calls).2.projection.ShowsPlainly name) ∧
    ∀ settings table keys read (calls : List AnyRead.Call),
      AnyRead.start settings table keys = .ok read →
        (read.run calls).2.projection.ShowsPlainly name := by
  refine ⟨?_, ?_, ?_, ?_, ?_⟩
  · intro calls
    rw [← Placeholders.bodyOf_run_iff alphanumeric]
    refine ⟨fun plain => Expression.Sigil.name.placeholder_injective plain.1, fun plain => ?_⟩
    exact ⟨congrArg namePlaceholder plain, congrArg valuePlaceholder plain⟩
  · intro settings table key update calls started
    exact Update.showsPlainly_run (Update.fresh_of_start started) calls alphanumeric
  · intro settings table key read calls started
    exact Projection.showsPlainly_run alphanumeric
      (fun read call => SingleRead.projection_step call.1 read call.2)
      (SingleRead.projection_start started) calls
  · intro settings table keys read calls started
    exact Projection.showsPlainly_run alphanumeric
      (fun read call => BatchRead.projection_step call.1 read call.2)
      (BatchRead.projection_start started) calls
  · intro settings table keys read calls started
    exact Projection.showsPlainly_run alphanumeric AnyRead.projection_step
      (AnyRead.projection_start started) calls

/-- Calls with names that look like `rev`. -/
def lookalikeCalls : List Placeholders.Call :=
  [.reserve "_addOne", .name "re.v", .value "rev_1", .name "re_v"]

/-- Writes to attributes that look like the revision, and a caller who takes one for it. -/
def lookalikeWrites : List (Update.World × Update.Call) :=
  [(default, .merge [("re-v", .text "a"), ("re_v", .text "b"), ("rev_1", .text "c")]),
    (default, .names [("#rev", "re-v")])]

/-- The lock behind them. -/
def lockCall : Update.World × Update.Call := (default, .lock (some 1))

theorem plain_placeholders_of_lookalikes :
    isAlphanumeric "rev" = true ∧
      ((Placeholders.run ∅ lookalikeCalls).2.name "rev").1 = "#rev" ∧
      ∃ update, Update.start {} "t" [("id", .text "1")] = .ok update ∧
        (update.run (lookalikeWrites ++ [lockCall])).2.Shows (Update.lockWrite 1) ∧
        (update.run (lookalikeWrites ++ [lockCall])).2.names.find? "#rev" = some "rev" := by
  have alphanumeric : isAlphanumeric "rev" = true := by decide
  obtain ⟨registry, updates, -⟩ := plain_placeholders alphanumeric
  have inTime : ¬Placeholders.ReservedFirst lookalikeCalls "rev" := by
    rintro ⟨before, after, split, -⟩
    have mem : Placeholders.Call.reserve "rev" ∈ lookalikeCalls := by
      rw [split]
      exact List.mem_append_right _ List.mem_cons_self
    exact absurd mem (by decide)
  have started : Update.start {} "t" [("id", .text "1")] = .ok _ := rfl
  have plainly := updates {} "t" [("id", .text "1")] _ (lookalikeWrites ++ [lockCall]) started
  have made : ∀ update, Update.lockWrite 1 ∈ lockCall.2.effect.writes lockCall.1 update :=
    fun _ => List.mem_cons_self
  refine ⟨alphanumeric, ((registry lookalikeCalls).2 inTime).1, _, started, ?_, ?_⟩
  · exact plainly.shows _ (Update.mem_history_iff.2 ⟨_, _, [], rfl, made _⟩) rfl
  · exact plainly.tells lookalikeWrites lockCall [] rfl _ (made _) rfl

end ItemStore
