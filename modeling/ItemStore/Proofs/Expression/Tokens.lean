import Mathlib
import ItemStore.Expression.Clauses
import ItemStore.Expression.Placeholders

/-!
# ItemStore.Proofs.Expression.Tokens

The placeholders that occur in the text of an expression: a `#` or a `:` with all the letters,
digits and underscores behind it.

Fragments are joined with separators that start with no such character and hold no sigil. So the
joined text has the placeholders of its fragments and no others (`tokens_expression?`).
-/

namespace ItemStore.Expression

/-- What a placeholder stands for, as its first character tells. -/
inductive Sigil
  /-- The name of an attribute. -/
  | name
  | value
deriving DecidableEq, Repr

namespace Sigil

/-- The first character of the placeholders. -/
def char : Sigil → Char
  | .name => '#'
  | .value => ':'

/-- The placeholder with a body. -/
def placeholder : Sigil → (body : String) → String
  | .name => namePlaceholder
  | .value => valuePlaceholder

/-- The placeholders in a text, from left to right, with repetitions. -/
def scan (sigil : Sigil) : List Char → List String
  | [] => []
  | c :: rest =>
      if c = sigil.char then
        String.ofList (c :: rest.takeWhile Text.isWordChar) :: sigil.scan rest
      else sigil.scan rest

/-- The placeholders in a text, from left to right, with repetitions. -/
def tokens (sigil : Sigil) (text : String) : List String := sigil.scan text.toList

variable (sigil : Sigil)

/-! ### Placeholders -/

theorem toList_placeholder (body : String) :
    (sigil.placeholder body).toList = sigil.char :: body.toList := by
  cases sigil <;> simp [placeholder, namePlaceholder, valuePlaceholder, char]

theorem placeholder_injective {body other : String}
    (h : sigil.placeholder body = sigil.placeholder other) : body = other := by
  have chars := congrArg String.toList h
  rw [toList_placeholder, toList_placeholder] at chars
  exact String.toList_inj.1 (List.cons.inj chars).2

/-! ### Texts one behind the other -/

/-- Whether a placeholder ends in front of a text: no letter, digit or underscore starts it. -/
def stops (text : List Char) : Bool := text.head?.all fun c => !Text.isWordChar c

theorem takeWhile_append_of_stops {text rest : List Char} (h : stops rest = true) :
    (text ++ rest).takeWhile Text.isWordChar = text.takeWhile Text.isWordChar := by
  induction text with
  | nil =>
      cases rest with
      | nil => rfl
      | cons c rest =>
          have : Text.isWordChar c = false := by simpa [stops] using h
          rw [List.nil_append, List.takeWhile_cons, this]
          rfl
  | cons c text ih =>
      rw [List.cons_append, List.takeWhile_cons, List.takeWhile_cons, ih]

/-- No placeholder reaches over the start of a text at which placeholders stop. -/
theorem scan_append {text rest : List Char} (h : stops rest = true) :
    sigil.scan (text ++ rest) = sigil.scan text ++ sigil.scan rest := by
  induction text with
  | nil => rfl
  | cons c text ih =>
      rw [List.cons_append, scan, scan, ih, takeWhile_append_of_stops h]
      split <;> rfl

/-- A text without the sigil has no placeholders, whatever stands behind it. -/
theorem scan_append_of_not_mem {text : List Char} (h : sigil.char ∉ text) (rest : List Char) :
    sigil.scan (text ++ rest) = sigil.scan rest := by
  induction text with
  | nil => rfl
  | cons c text ih =>
      rw [List.mem_cons, not_or] at h
      rw [List.cons_append, scan, if_neg (Ne.symm h.1), ih h.2]

theorem tokens_append_of_not_mem {text : String} (h : sigil.char ∉ text.toList)
    (rest : String) : sigil.tokens (text ++ rest) = sigil.tokens rest := by
  rw [tokens, String.toList_append, scan_append_of_not_mem sigil h, tokens]

/-- Whether a text keeps the placeholders before and behind it apart and has none itself. -/
def separates (separator : String) : Bool :=
  !separator.toList.isEmpty && stops separator.toList && !separator.toList.contains sigil.char

variable {sigil}

/-- Two texts with a separator between them have the placeholders of both. -/
theorem tokens_append {separator : String} (h : sigil.separates separator = true)
    (text rest : String) :
    sigil.tokens (text ++ separator ++ rest) = sigil.tokens text ++ sigil.tokens rest := by
  rw [separates, Bool.and_eq_true, Bool.and_eq_true, Bool.not_eq_true', Bool.not_eq_true',
    List.isEmpty_eq_false_iff, List.contains_eq_mem, decide_eq_false_iff_not] at h
  obtain ⟨⟨ne, stop⟩, free⟩ := h
  have stopJoined : stops (separator.toList ++ rest.toList) = true := by
    rw [stops, List.head?_append_of_ne_nil _ ne]
    exact stop
  rw [tokens, String.toList_append, String.toList_append, List.append_assoc,
    scan_append sigil stopJoined, scan_append_of_not_mem sigil free, tokens, tokens]

/-- Texts joined with a separator have the placeholders of each. -/
theorem tokens_intercalate {separator : String} (h : sigil.separates separator = true)
    (texts : List String) :
    sigil.tokens (separator.intercalate texts) = texts.flatMap sigil.tokens := by
  induction texts with
  | nil => rw [String.intercalate_nil]; rfl
  | cons text rest ih =>
      cases rest with
      | nil => rw [String.intercalate_singleton, List.flatMap_singleton]
      | cons next rest =>
          rw [String.intercalate_cons_cons, tokens_append h, ih, ← List.flatMap_cons]

/-! ### Update expressions -/

theorem not_mem_keyword (sigil : Sigil) (kind : ClauseKind) :
    sigil.char ∉ (kind.keyword ++ " ").toList := by
  cases sigil <;> cases kind <;> decide

theorem tokens_clauseText? (sigil : Sigil) (clauses : Clauses) (kind : ClauseKind) :
    (clauses.clauseText? kind).toList.flatMap sigil.tokens =
      (clauses.fragments kind).flatMap sigil.tokens := by
  unfold Clauses.clauseText?
  cases h : clauses.fragments kind with
  | nil => rfl
  | cons fragment rest =>
      rw [Option.toList_some, List.flatMap_singleton,
        tokens_append_of_not_mem sigil (not_mem_keyword sigil kind),
        tokens_intercalate (by cases sigil <;> decide)]

/-- The placeholders of an update expression are those of its fragments. -/
theorem tokens_expression? (sigil : Sigil) (clauses : Clauses) :
    clauses.expression?.toList.flatMap sigil.tokens =
      ClauseKind.order.flatMap fun kind => (clauses.fragments kind).flatMap sigil.tokens := by
  have joined : clauses.expression?.toList.flatMap sigil.tokens =
      (ClauseKind.order.filterMap clauses.clauseText?).flatMap sigil.tokens := by
    unfold Clauses.expression?
    cases h : ClauseKind.order.filterMap clauses.clauseText? with
    | nil => rfl
    | cons text rest =>
        rw [Option.toList_some, List.flatMap_singleton,
          tokens_intercalate (by cases sigil <;> decide)]
  rw [joined]
  generalize ClauseKind.order = kinds
  induction kinds with
  | nil => rfl
  | cons kind kinds ih =>
      rw [List.flatMap_cons, ← ih, ← tokens_clauseText?]
      cases h : clauses.clauseText? kind with
      | none => rw [List.filterMap_cons_none h]; rfl
      | some text => rw [List.filterMap_cons_some h, List.flatMap_cons]; simp

end Sigil

end ItemStore.Expression
