import Mathlib
import ItemStore.Proofs.Update.History

/-!
# ItemStore.Proofs.Update.Closed

Closed requests: the expressions use just the placeholders that the request explains, and no
attribute has two.

An update that its caller writes nothing into builds closed requests only. The names and the values
explain the bodies of the attributes in its history. The fragments show each of them: those of an
increment lack the value, but then the condition has it.
-/

namespace ItemStore

open Expression (ClauseKind Form Placeholders Sigil mem_tokens_placeholder mem_tokens_text
  namePlaceholder valuePlaceholder)

namespace UpdateRequest

/-- The placeholders in the update expression and in the condition. -/
def tokens (request : UpdateRequest) (sigil : Sigil) : List String :=
  request.update.toList.flatMap sigil.tokens ++ request.condition.toList.flatMap sigil.tokens

/-- Whether a request explains its placeholders, and no others, and each attribute has one. -/
structure Closed (request : UpdateRequest) : Prop where
  /-- The names explain the placeholders that occur. -/
  names : ∀ ph, ph ∈ request.tokens .name ↔ request.names.contains ph = true
  /-- The values explain the placeholders that occur. -/
  values : ∀ ph, ph ∈ request.tokens .value ↔ request.values.contains ph = true
  /-- No two placeholders stand for one attribute. -/
  injective : ∀ ph other attr, request.names.find? ph = some attr →
    request.names.find? other = some attr → ph = other

end UpdateRequest

namespace Update

variable {update : Update} {ws : List Write}

/-- The updates into which callers write nothing. -/
abbrev Generated (update : Update) (ws : List Write) : Prop := update.Records (fun _ => True) ws

/-- The fragments in the expressions are those of the assignments. -/
theorem Generated.mem_tokens_update (h : update.Generated ws) (sigil : Sigil) {ph : String} :
    ph ∈ update.request.update.toList.flatMap sigil.tokens ↔
      ∃ w ∈ ws, ∃ body, update.placeholders.bodies.find? w.attr = some body ∧
        ph = w.form.shown sigil body := by
  -- The other clauses would be the caller's.
  have clauses : (ClauseKind.order.flatMap fun kind =>
      (update.clauses.fragments kind).flatMap sigil.tokens) =
        update.clauses.set.flatMap sigil.tokens := by
    simp only [ClauseKind.order, List.flatMap_cons, List.flatMap_nil, List.append_nil,
      h.others .add (by decide) trivial, h.others .remove (by decide) trivial,
      h.others .delete (by decide) trivial]
    rfl
  rw [request, Sigil.tokens_expression?, clauses, h.set trivial, List.mem_flatMap]
  constructor
  · rintro ⟨fragment, mem, token⟩
    obtain ⟨a, among, rfl⟩ := List.mem_map.1 mem
    obtain ⟨w, made, rfl⟩ := List.mem_map.1 (List.mem_eraseDups.1 among)
    obtain ⟨body, has⟩ := h.body_iff.2 ⟨w, made, rfl⟩
    rw [Placeholders.text_of_find? (a := w.assignment) has,
      mem_tokens_text _ sigil (h.regular.sound.isWord has)] at token
    exact ⟨w, made, body, has, token⟩
  · rintro ⟨w, among, body, has, token⟩
    refine ⟨update.placeholders.text w.assignment, List.mem_map_of_mem
      (List.mem_eraseDups.2 (List.mem_map_of_mem among)), ?_⟩
    rw [Placeholders.text_of_find? (a := w.assignment) has,
      mem_tokens_text _ sigil (h.regular.sound.isWord has)]
    exact token

/-- The condition shows the revision if the update is locked. -/
theorem Generated.mem_tokens_condition (h : update.Generated ws) (sigil : Sigil) {ph : String} :
    ph ∈ update.request.condition.toList.flatMap sigil.tokens ↔
      update.locked = true ∧ ph = sigil.placeholder revisionAttr := by
  have word : Expression.IsWord revisionAttr := List.all_eq_true.1 rfl
  rw [request, h.condition trivial]
  cases update.locked with
  | false => simp
  | true =>
      rw [if_pos rfl, Option.toList_some, List.flatMap_singleton, mem_tokens_text .plain _ word,
        and_iff_right rfl, Form.shown_of_ne (by decide)]

/-- A locked update has the body of the revision. -/
theorem Generated.find?_revision (h : update.Generated ws) (locked : update.locked = true) :
    update.placeholders.bodies.find? revisionAttr = some revisionAttr := by
  obtain ⟨w, mem, increment⟩ := h.locked.1 locked
  obtain ⟨body, has⟩ := h.body_iff.2 ⟨w, mem, h.revision w mem increment⟩
  have plain := h.regular.body_eq (by decide : Expression.isAlphanumeric revisionAttr = true)
  rw [Placeholders.body_of_find? has] at plain
  rw [has]
  exact congrArg some plain

/-- The values explain the bodies of the attributes, and one by which the revision grows. -/
theorem Generated.contains_values_iff (h : update.Generated ws) {ph : String} :
    update.values.contains ph = true ↔
      (∃ w ∈ ws, ∃ body, update.placeholders.bodies.find? w.attr = some body ∧
        ph = valuePlaceholder body) ∨
      (update.locked = true ∧ ph = valuePlaceholder incrementBody) := by
  rw [NameMap.contains, Option.isSome_iff_exists]
  constructor
  · rintro ⟨value, told⟩
    rcases (h.values trivial _ _).1 told with ⟨attr, body, has, eq, -⟩ | ⟨locked, eq, -⟩
    · obtain ⟨w, mem, rfl⟩ := h.body_iff.1 ⟨body, has⟩
      exact .inl ⟨w, mem, body, has, eq⟩
    · exact .inr ⟨locked, eq⟩
  · rintro (⟨w, mem, body, has, eq⟩ | ⟨locked, eq⟩)
    · obtain ⟨value, last⟩ := exists_lastValue?_iff.2 ⟨w, mem, rfl⟩
      exact ⟨value, (h.values trivial _ _).2 (.inl ⟨w.attr, body, has, eq, last⟩)⟩
    · exact ⟨.ofInt 1, (h.values trivial _ _).2 (.inr ⟨locked, eq, rfl⟩)⟩

theorem Generated.closed (h : update.Generated ws) : update.request.Closed where
  names ph := by
    rw [UpdateRequest.tokens, List.mem_append, h.mem_tokens_update, h.mem_tokens_condition,
      NameMap.contains, Option.isSome_iff_exists]
    simp only [Form.shown_name]
    constructor
    · rintro (⟨w, -, body, has, rfl⟩ | ⟨locked, rfl⟩)
      · exact ⟨w.attr, (h.names trivial _ _).2 ⟨body, has, rfl⟩⟩
      · exact ⟨revisionAttr, (h.names trivial _ _).2 ⟨_, h.find?_revision locked, rfl⟩⟩
    · rintro ⟨attr, told⟩
      obtain ⟨body, has, rfl⟩ := (h.names trivial _ _).1 told
      obtain ⟨w, mem, rfl⟩ := h.body_iff.1 ⟨body, has⟩
      exact .inl ⟨w, mem, body, has, rfl⟩
  values ph := by
    rw [UpdateRequest.tokens, List.mem_append, h.mem_tokens_update, h.mem_tokens_condition]
    refine Iff.trans ?_ h.contains_values_iff.symm
    constructor
    · rintro (⟨w, mem, body, has, rfl⟩ | ⟨locked, rfl⟩)
      · by_cases increment : w.form = .increment
        · exact .inr ⟨h.locked.2 ⟨w, mem, increment⟩, by rw [increment, Form.shown]⟩
        · exact .inl ⟨w, mem, body, has, Form.shown_of_ne increment .value body⟩
      · obtain ⟨w, mem, attr⟩ := h.body_iff.1 ⟨_, h.find?_revision locked⟩
        exact .inl ⟨w, mem, revisionAttr, attr ▸ h.find?_revision locked, rfl⟩
    · rintro (⟨w, mem, body, has, rfl⟩ | ⟨locked, rfl⟩)
      · by_cases increment : w.form = .increment
        · -- The fragment lacks the value, but the condition has it.
          have locked := h.locked.2 ⟨w, mem, increment⟩
          rw [h.revision w mem increment, h.find?_revision locked] at has
          exact .inr ⟨locked, congrArg _ (Option.some.inj has).symm⟩
        · exact .inl ⟨w, mem, body, has, (Form.shown_of_ne increment .value body).symm⟩
      · obtain ⟨w, mem, increment⟩ := h.locked.1 locked
        refine .inl ⟨w, mem, _, (h.revision w mem increment) ▸ h.find?_revision locked, ?_⟩
        rw [increment, Form.shown]
  injective ph other attr told told' := by
    obtain ⟨body, has, rfl⟩ := (h.names trivial _ _).1 told
    obtain ⟨body', has', rfl⟩ := (h.names trivial _ _).1 told'
    rw [has] at has'
    rw [Option.some.inj has']

/-! ### Runs -/

/--
Every request is closed that is built in a run of calls by which the caller writes nothing himself,
whatever the names in the payloads are.
-/
theorem closed_of_mem_built {settings : Settings} {table : String} {key : List (String × Value)}
    (started : start settings table key = .ok update) {calls : List (World × Call)}
    (generated : ∀ call ∈ calls, call.2.part? = none) {request : UpdateRequest}
    (built : request ∈ (update.run calls).1.filterMap ItemStore.Call.Result.built?) :
    request.Closed := by
  obtain ⟨before, after, rfl, rfl⟩ := exists_of_mem_built built
  have records : (update.run before).2.Generated ([] ++ update.history before) := by
    refine records_run (fresh_of_start started).records fun call mem part of => ?_
    rw [generated call (List.mem_append_left _ mem)] at of
    cases of
  exact records.closed

/-- Payloads whose names would share a body, a lock on the way, and a request at the end. -/
def collidingCalls : List (World × Call) :=
  [(default, .merge [("a-b", .text "x"), ("a_b", .text "y"), ("a_b_1", .text "z")]),
    (default, .lock (some 3)), (default, .merge [("a.b", .null)]), (default, .request)]

theorem closed_of_colliding_names :
    ∃ update request, start {} "t" [("id", .text "1")] = .ok update ∧
      (∀ call ∈ collidingCalls, call.2.part? = none) ∧
      request ∈ (update.run collidingCalls).1.filterMap ItemStore.Call.Result.built? ∧
      request.update = some ("SET #a_b = :a_b, #a_b_1 = :a_b_1, #a_b_1_1 = :a_b_1_1, " ++
        "#createdAt = if_not_exists(#createdAt, :createdAt), #updatedAt = :updatedAt, " ++
        "#rev = #rev + :_addOne, #a_b_2 = :a_b_2") ∧
      request.Closed := by
  have generated : ∀ call ∈ collidingCalls, call.2.part? = none := by decide
  have started : start {} "t" [("id", .text "1")] = .ok _ := rfl
  refine ⟨_, _, started, generated, List.mem_singleton.2 rfl, by decide +kernel, ?_⟩
  exact closed_of_mem_built started generated (List.mem_singleton.2 rfl)

end Update

end ItemStore
