import Mathlib
import ItemStore.Proofs.Expression.Registry
import ItemStore.Proofs.Expression.Tokens
import ItemStore.Text.Blank
import ItemStore.Update.Basic

/-!
# ItemStore.Proofs.Expression.Assignment

The fragments by which an update assigns attributes of its own accord, and what a fragment of the
SET clause assigns.

Design points:

* A fragment is determined by its form and a body (`Form.text`), and determines both
  (`Form.text_injective`).
* What a fragment assigns is read off its text: the path in front of the equals sign, resolved
  through the names of the request (`assigned?`).
-/

namespace ItemStore.Expression

/-! ### What a fragment assigns -/

/-- The path that a fragment assigns: what stands in front of the equals sign and of blanks. -/
def leftSide (fragment : String) : String :=
  String.ofList ((fragment.toList.dropWhile Text.isWhiteSpace).takeWhile fun c =>
    !(c == '=' || Text.isWhiteSpace c))

/-- The attribute that a path leads to. A placeholder leads to what it stands for. -/
def resolve? (names : NameMap String) (path : String) : Option String :=
  if path.toList.head? = some '#' then names.find? path else some path

/-- The attribute that a fragment of the SET clause assigns. -/
def assigned? (names : NameMap String) (fragment : String) : Option String :=
  resolve? names (leftSide fragment)

/-- The form of a fragment that assigns an attribute. -/
inductive Form
  /-- The attribute gets a value. -/
  | plain
  /-- The attribute gets a value unless it has one. -/
  | ifAbsent
  /-- The attribute grows by one. -/
  | increment
deriving DecidableEq, Repr

namespace Form

/-- The fragment made from the placeholders of an attribute. -/
def fragment : Form → (name value : String) → String
  | .plain => fun name value => name ++ " = " ++ value
  | .ifAbsent => fun name value => name ++ " = if_not_exists(" ++ name ++ ", " ++ value ++ ")"
  | .increment => fun name _ => name ++ " = " ++ name ++ " + " ++ valuePlaceholder incrementBody

/-- The fragment for an attribute with a body. -/
def text (form : Form) (body : String) : String :=
  form.fragment (namePlaceholder body) (valuePlaceholder body)

/-- A fragment starts with the placeholder of the attribute and a blank. -/
theorem toList_text (form : Form) (body : String) :
    ∃ rest, (form.text body).toList = ('#' :: body.toList) ++ ' ' :: rest := by
  cases form with
  | plain =>
      exact ⟨("= " ++ valuePlaceholder body).toList, by simp [text, fragment, namePlaceholder]⟩
  | ifAbsent =>
      refine ⟨("= if_not_exists(" ++ namePlaceholder body ++ ", " ++ valuePlaceholder body
        ++ ")").toList, ?_⟩
      simp [text, fragment, namePlaceholder]
  | increment =>
      refine ⟨("= " ++ namePlaceholder body ++ " + " ++ valuePlaceholder incrementBody).toList, ?_⟩
      simp [text, fragment, namePlaceholder]

/-- Behind the equals sign a fragment shows its form. -/
theorem eq_of_text_eq {form other : Form} {body : String}
    (h : form.text body = other.text body) : form = other := by
  have chars := congrArg String.toList h
  cases form <;> cases other <;>
    simp [text, fragment, namePlaceholder, valuePlaceholder] at chars ⊢

end Form

/-! ### Words -/

theorem range_of_isWordChar {c : Char} (h : Text.isWordChar c = true) :
    48 ≤ c.toNat ∧ c.toNat ≤ 122 ∧ c.toNat ≠ 61 := by
  simp only [Text.isWordChar, Text.isLetter, Text.isDigit, Bool.or_eq_true, Bool.and_eq_true,
    decide_eq_true_eq, beq_iff_eq] at h
  rcases h with ((h | h) | h) | rfl
  · have lo : 65 ≤ c.toNat := h.1
    have hi : c.toNat ≤ 90 := h.2
    omega
  · have lo : 97 ≤ c.toNat := h.1
    have hi : c.toNat ≤ 122 := h.2
    omega
  · have lo : 48 ≤ c.toNat := h.1
    have hi : c.toNat ≤ 57 := h.2
    omega
  · decide

theorem isWhiteSpace_of_isWordChar {c : Char} (h : Text.isWordChar c = true) :
    Text.isWhiteSpace c = false := by
  have range := range_of_isWordChar h
  rw [← Bool.not_eq_true]
  intro blank
  simp only [Text.isWhiteSpace, Bool.or_eq_true, Bool.and_eq_true, decide_eq_true_eq,
    beq_iff_eq] at blank
  omega

theorem ne_equals_of_isWordChar {c : Char} (h : Text.isWordChar c = true) : c ≠ '=' := by
  rintro rfl
  exact (range_of_isWordChar h).2.2 rfl

/-! ### What the fragments assign -/

/-- A fragment assigns the attribute that the placeholder of its body stands for. -/
theorem leftSide_text (form : Form) {body : String} (word : IsWord body) :
    leftSide (form.text body) = namePlaceholder body := by
  have path : ∀ c ∈ '#' :: body.toList, (!(c == '=' || Text.isWhiteSpace c)) = true := by
    intro c mem
    rcases List.mem_cons.1 mem with rfl | mem
    · decide
    · rw [isWhiteSpace_of_isWordChar (word c mem), beq_false_of_ne
        (ne_equals_of_isWordChar (word c mem))]
      rfl
  obtain ⟨rest, chars⟩ := form.toList_text body
  rw [leftSide, chars, List.cons_append, List.dropWhile_cons_of_neg (by decide),
    ← List.cons_append, List.takeWhile_append_of_pos path, List.takeWhile_cons_of_neg (by decide),
    List.append_nil]
  rw [← String.toList_inj, String.toList_ofList]
  exact (Sigil.name.toList_placeholder body).symm

theorem assigned?_text (names : NameMap String) (form : Form) {body : String}
    (word : IsWord body) :
    assigned? names (form.text body) = names.find? (namePlaceholder body) := by
  have head : (namePlaceholder body).toList.head? = some '#' := by
    rw [namePlaceholder, String.toList_append]
    rfl
  rw [assigned?, leftSide_text form word, resolve?, if_pos head]

/-- Fragments of different forms or with different bodies are different texts. -/
theorem Form.text_injective {form other : Form} {body body' : String} (word : IsWord body)
    (word' : IsWord body') (h : form.text body = other.text body') :
    form = other ∧ body = body' := by
  have sides := congrArg leftSide h
  rw [leftSide_text form word, leftSide_text other word'] at sides
  obtain rfl := Sigil.name.placeholder_injective sides
  exact ⟨Form.eq_of_text_eq h, rfl⟩

/-! ### Placeholders in the fragments -/

theorem tokens_placeholder (sigil : Sigil) {body : String} (word : IsWord body) :
    sigil.tokens (sigil.placeholder body) = [sigil.placeholder body] := by
  have free : sigil.char ∉ body.toList := by
    intro mem
    have := word _ mem
    cases sigil <;> cases this
  have none : sigil.scan body.toList = [] := by
    have := Sigil.scan_append_of_not_mem sigil free []
    rwa [List.append_nil] at this
  rw [Sigil.tokens, Sigil.toList_placeholder, Sigil.scan, if_pos rfl, none,
    List.takeWhile_eq_self_iff.2 word, ← Sigil.toList_placeholder, String.ofList_toList]

theorem tokens_placeholder_of_ne {sigil other : Sigil} (ne : sigil ≠ other) {body : String}
    (word : IsWord body) : sigil.tokens (other.placeholder body) = [] := by
  -- Neither the other sigil nor the body has the character.
  have free : sigil.char ∉ (other.placeholder body).toList := by
    rw [Sigil.toList_placeholder]
    intro mem
    rcases List.mem_cons.1 mem with eq | mem
    · cases sigil <;> cases other <;> first | exact ne rfl | cases eq
    · have := word _ mem
      cases sigil <;> cases this
  have := Sigil.tokens_append_of_not_mem sigil free ""
  rwa [String.append_empty] at this

theorem mem_tokens_placeholder (sigil other : Sigil) {body : String} (word : IsWord body)
    {ph : String} :
    ph ∈ sigil.tokens (other.placeholder body) ↔ sigil = other ∧ ph = sigil.placeholder body := by
  by_cases eq : sigil = other
  · subst eq
    rw [tokens_placeholder sigil word, List.mem_singleton, and_iff_right rfl]
  · rw [tokens_placeholder_of_ne eq word]
    exact ⟨fun mem => absurd mem List.not_mem_nil, fun both => absurd both.1 eq⟩

theorem isWord_incrementBody : IsWord incrementBody := List.all_eq_true.1 rfl

/-- The placeholder with a sigil that a fragment shows. -/
def Form.shown (form : Form) (sigil : Sigil) (body : String) : String :=
  match sigil, form with
  | .value, .increment => valuePlaceholder incrementBody
  | sigil, _ => sigil.placeholder body

theorem Form.shown_name (form : Form) (body : String) :
    form.shown .name body = namePlaceholder body := by
  cases form <;> rfl

theorem Form.shown_of_ne {form : Form} (ne : form ≠ .increment) (sigil : Sigil) (body : String) :
    form.shown sigil body = sigil.placeholder body := by
  cases form <;> cases sigil <;> first | rfl | exact absurd rfl ne

/-- A fragment shows one placeholder for a name and one for a value. -/
theorem mem_tokens_text (form : Form) (sigil : Sigil) {body : String} (word : IsWord body)
    {ph : String} : ph ∈ sigil.tokens (form.text body) ↔ ph = form.shown sigil body := by
  -- The fragment is cut at what stands between its placeholders.
  have separates : ∀ separator ∈ [" = ", " = if_not_exists(", ", ", ")", " + "],
      sigil.separates separator = true := by cases sigil <;> decide
  cases form with
  | plain =>
      have text : Form.plain.text body =
          Sigil.name.placeholder body ++ " = " ++ Sigil.value.placeholder body := rfl
      rw [text, Sigil.tokens_append (separates " = " (by decide)), List.mem_append,
        mem_tokens_placeholder sigil _ word, mem_tokens_placeholder sigil _ word]
      cases sigil <;> simp [Form.shown]
  | ifAbsent =>
      have text : Form.ifAbsent.text body =
          Sigil.name.placeholder body ++ " = if_not_exists(" ++ Sigil.name.placeholder body ++
            ", " ++ Sigil.value.placeholder body ++ ")" ++ "" := by
        rw [String.append_empty]
        rfl
      rw [text, Sigil.tokens_append (separates ")" (by decide)),
        Sigil.tokens_append (separates ", " (by decide)),
        Sigil.tokens_append (separates " = if_not_exists(" (by decide)), List.mem_append,
        List.mem_append, List.mem_append, mem_tokens_placeholder sigil _ word,
        mem_tokens_placeholder sigil _ word]
      cases sigil <;> simp [Form.shown, Sigil.tokens, Sigil.scan]
  | increment =>
      have text : Form.increment.text body =
          Sigil.name.placeholder body ++ " = " ++ Sigil.name.placeholder body ++ " + " ++
            Sigil.value.placeholder incrementBody := rfl
      rw [text, Sigil.tokens_append (separates " + " (by decide)),
        Sigil.tokens_append (separates " = " (by decide)), List.mem_append, List.mem_append,
        mem_tokens_placeholder sigil _ word, mem_tokens_placeholder sigil _ isWord_incrementBody]
      cases sigil <;> simp [Form.shown, Sigil.placeholder]

end ItemStore.Expression
