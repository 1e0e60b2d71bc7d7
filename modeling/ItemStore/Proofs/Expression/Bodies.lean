import Mathlib
import ItemStore.Call
import ItemStore.Proofs.Expression.Registry

/-!
# ItemStore.Proofs.Expression.Bodies

Which bodies a registry hands out in a run of calls.

A call reserves a body or asks for one. So whatever both of these keep holds behind every run
(`run_induction`): names keep their bodies, taken bodies stay taken, and bodies belong to one name
each. From this the answers to a whole run follow (`handsOut_run`): they are told by one function
from names to bodies, which is the registry behind the run.
-/

namespace ItemStore.Expression.Placeholders

/-! ### Calls -/

/-- The calls to a registry. -/
inductive Call
  /-- Keeps a body away from names that have none yet. -/
  | reserve (body : String)
  /-- Asks for the placeholder of an attribute name. -/
  | name (attr : String)
  /-- Asks for the placeholder of the value of an attribute. -/
  | value (attr : String)
deriving DecidableEq, Repr

/-- The attribute that a call asks for, if it asks for one. -/
def Call.attr? : Call → Option String
  | .reserve _ => none
  | .name attr => some attr
  | .value attr => some attr

/-- What a call is answered if attributes have given bodies. -/
def Call.answer? (bodyOf : String → String) : Call → Option String
  | .reserve _ => none
  | .name attr => some (namePlaceholder (bodyOf attr))
  | .value attr => some (valuePlaceholder (bodyOf attr))

/-- Takes a call: the placeholder that is asked for, and the registry behind the call. -/
def step (registry : Placeholders) : Call → Option String × Placeholders
  | .reserve body => (none, registry.reserve body)
  | .name attr => (some (registry.name attr).1, (registry.name attr).2)
  | .value attr => (some (registry.value attr).1, (registry.value attr).2)

/-- Takes calls one after the other. -/
def run : Placeholders → List Call → List (Option String) × Placeholders := ItemStore.Call.run step

/-- The attributes that calls ask for, in order. -/
def asked (calls : List Call) : List String := calls.filterMap Call.attr?

/-- The body that a registry has for an attribute, or would give to it. -/
def bodyOf (registry : Placeholders) (attr : String) : String := (registry.body attr).1

variable {registry : Placeholders} {attr b : String}

theorem bodyOf_of_find? (h : registry.bodies.find? attr = some b) : registry.bodyOf attr = b := by
  rw [bodyOf, body_of_find? h]

/-- The answer to a call looks at the body of its attribute only. -/
theorem Call.answer?_congr {call : Call} {bodyOf other : String → String}
    (asks : call.attr? = some attr) (same : bodyOf attr = other attr) :
    call.answer? bodyOf = call.answer? other := by
  cases call with
  | reserve body => cases asks
  | name _ => cases asks; rw [Call.answer?, Call.answer?, same]
  | value _ => cases asks; rw [Call.answer?, Call.answer?, same]

/-- A call that asks for no attribute reserves a body. -/
theorem Call.eq_reserve_of_attr? {call : Call} (asks : call.attr? = none) :
    ∃ body, call = .reserve body := by
  cases call with
  | reserve body => exact ⟨body, rfl⟩
  | name _ => cases asks
  | value _ => cases asks

/-- A call that asks for an attribute is answered with its body, and the attribute keeps that. -/
theorem step_of_attr? (registry : Placeholders) {call : Call} (asks : call.attr? = some attr) :
    registry.step call = (call.answer? registry.bodyOf, (registry.body attr).2) := by
  cases call with
  | reserve body => cases asks
  | name _ => cases asks; rfl
  | value _ => cases asks; rfl

/-! ### Runs -/

/-- What reserving a body and asking for one keep, every run keeps. -/
theorem run_induction {P : Placeholders → Prop} (reserve : ∀ registry b, P registry →
      P (registry.reserve b))
    (body : ∀ registry attr, P registry → P (registry.body attr).2) (start : P registry)
    (calls : List Call) : P (registry.run calls).2 := by
  induction calls generalizing registry with
  | nil => exact start
  | cons call rest ih =>
      refine ih ?_
      cases call with
      | reserve b => exact reserve registry b start
      | name attr => exact body registry attr start
      | value attr => exact body registry attr start

/-- A body that an attribute has stays its body. -/
theorem find?_run (h : registry.bodies.find? attr = some b) (calls : List Call) :
    (registry.run calls).2.bodies.find? attr = some b :=
  run_induction (P := fun registry => registry.bodies.find? attr = some b)
    (fun _ _ has => has) (fun _ name has => find?_body_of_find? has name) h calls

theorem Sound.run (h : registry.Sound) (calls : List Call) : (registry.run calls).2.Sound :=
  run_induction (fun _ b sound => sound.reserve b) (fun _ name sound => sound.body name) h calls

theorem Denies.run (h : registry.Denies attr b) (calls : List Call) :
    (registry.run calls).2.Denies attr b :=
  run_induction (P := fun registry => registry.Denies attr b)
    (fun _ other denies => denies.reserve other) (fun _ name denies => denies.body name) h calls

/-- Behind a run just those attributes have bodies that had one or have been asked for. -/
theorem contains_bodies_run (registry : Placeholders) (calls : List Call) (attr : String) :
    (registry.run calls).2.bodies.contains attr = true ↔
      registry.bodies.contains attr = true ∨ attr ∈ asked calls := by
  induction calls generalizing registry with
  | nil => simp [run, asked]
  | cons call rest ih =>
      have others : (registry.run (call :: rest)).2 = ((registry.step call).2.run rest).2 := rfl
      rw [others, ih]
      cases asks : call.attr? with
      | none =>
          obtain ⟨body, rfl⟩ := Call.eq_reserve_of_attr? asks
          rfl
      | some other =>
          have first : asked (call :: rest) = other :: asked rest :=
            List.filterMap_cons_some asks
          rw [step_of_attr? registry asks, contains_bodies_body, first, List.mem_cons]
          tauto

/-- An attribute that has been asked for has its body. -/
theorem find?_of_mem_asked (registry : Placeholders) {calls : List Call}
    (mem : attr ∈ asked calls) :
    (registry.run calls).2.bodies.find? attr = some ((registry.run calls).2.bodyOf attr) := by
  have has := (contains_bodies_run registry calls attr).2 (.inr mem)
  obtain ⟨body, found⟩ := Option.isSome_iff_exists.1 has
  rw [found, bodyOf_of_find? found]

/-- All calls of a run are answered with the bodies that the registry has behind it. -/
theorem answers_run (registry : Placeholders) (calls : List Call) :
    (registry.run calls).1 = calls.map (Call.answer? (registry.run calls).2.bodyOf) := by
  induction calls generalizing registry with
  | nil => rfl
  | cons call rest ih =>
      have first : (registry.step call).1 =
          call.answer? ((registry.step call).2.run rest).2.bodyOf := by
        cases asks : call.attr? with
        | none =>
            obtain ⟨body, rfl⟩ := Call.eq_reserve_of_attr? asks
            rfl
        | some attr =>
            -- The attribute has its body from this call on.
            have found := find?_run (find?_body registry attr) rest
            rw [step_of_attr? registry asks]
            exact Call.answer?_congr asks (bodyOf_of_find? found).symm
      show (registry.step call).1 :: ((registry.step call).2.run rest).1 =
        (call :: rest).map (Call.answer? ((registry.step call).2.run rest).2.bodyOf)
      rw [List.map_cons, first, ih]

/-! ### Bodies handed out -/

/-- Whether the answers to calls tell a body for each attribute, as a registry hands them out. -/
structure HandsOut (bodyOf : String → String) (calls : List Call)
    (answers : List (Option String)) : Prop where
  /-- Every call for an attribute is answered with its body. -/
  answered : answers = calls.map (Call.answer? bodyOf)
  /-- No two attributes share a body. -/
  distinct : ∀ attr ∈ asked calls, ∀ other ∈ asked calls, bodyOf attr = bodyOf other → attr = other
  /-- An attribute does not get a body that was reserved before the attribute was asked for. -/
  reserved : ∀ before b after, calls = before ++ .reserve b :: after →
    ∀ attr ∈ asked after, attr ∉ asked before → bodyOf attr ≠ b
  /-- Bodies are made of letters, digits and underscores. -/
  isWord : ∀ attr ∈ asked calls, IsWord (bodyOf attr)
  /-- Only the empty name may have the empty body. -/
  nonempty : ∀ attr ∈ asked calls, attr ≠ "" → bodyOf attr ≠ ""

/--
In every run of calls each attribute gets one body, with which all calls for it are answered,
whatever is called in between; the registry behind the run knows it, and it stays the same in every
longer run. No two attributes share a body, and none gets a body that was reserved before.
-/
theorem handsOut_run (calls more : List Call) :
    HandsOut (run ∅ calls).2.bodyOf calls (run ∅ calls).1 ∧
      ∀ attr ∈ asked calls, (run ∅ (calls ++ more)).2.bodyOf attr = (run ∅ calls).2.bodyOf attr := by
  have sound : (run ∅ calls).2.Sound := sound_empty.run calls
  refine ⟨⟨answers_run ∅ calls, ?_, ?_, ?_, ?_⟩, ?_⟩
  · intro attr mem other memOther same
    have found := find?_of_mem_asked ∅ mem
    rw [same] at found
    exact sound.distinct found (find?_of_mem_asked ∅ memOther)
  · intro before b after cut attr mem new same
    -- When the body is reserved the attribute has none, so it never gets this one.
    have none : (run ∅ before).2.bodies.find? attr = none := by
      have without := mt (contains_bodies_run ∅ before attr).1
        (not_or.2 ⟨Bool.false_ne_true, new⟩)
      exact Option.not_isSome_iff_eq_none.1 without
    have denies := (denies_reserve none b).run after
    have later : (run ∅ calls).2 = (((run ∅ before).2.reserve b).run after).2 := by
      rw [cut, run, ItemStore.Call.run_append]
      rfl
    have among : attr ∈ asked calls := by
      rw [cut, asked, List.filterMap_append, List.mem_append]
      exact .inr mem
    have found := find?_of_mem_asked ∅ among
    rw [same, later] at found
    exact denies.other found
  · intro attr mem
    exact sound.isWord (find?_of_mem_asked ∅ mem)
  · intro attr mem ne
    exact sound.ne_empty (find?_of_mem_asked ∅ mem) ne
  · intro attr mem
    have found := find?_run (find?_of_mem_asked ∅ mem) more
    have later : (run ∅ (calls ++ more)).2 = ((run ∅ calls).2.run more).2 := by
      rw [run, ItemStore.Call.run_append]
    rw [later, bodyOf_of_find? found]

/-- Names that look like bodies with a number, and a body that was reserved, get further ones. -/
example : (run ∅ [.name "a-b", .name "a_b", .value "a_b_1", .reserve "x", .name "x", .value "a_b"]).1
    = [some "#a_b", some "#a_b_1", some ":a_b_1_1", none, some "#x_1", some ":a_b_1"] := by
  decide

end ItemStore.Expression.Placeholders
