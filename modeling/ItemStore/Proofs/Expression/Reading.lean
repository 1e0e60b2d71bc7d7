import Mathlib
import ItemStore.Expression.Condition
import ItemStore.Text.Ascii
import ItemStore.Text.Blank

/-!
# ItemStore.Proofs.Expression.Reading

How a store reads a condition: `AND` binds tighter than `OR`, and what is in parentheses is read on
its own. So a condition is a choice of alternatives, each of which demands some operands.

Design points:

* Keywords count outside of parentheses only, in any letter case. What stands between them is an
  operand; nothing is asked of its meaning but that it is true or false.
* A blank ends every lexeme. So the lexemes of joined expressions are those of the expressions with
  the keywords between them (`lexemes_joined`), and the alternatives can be read off the
  connectives (`reading_joinAll`).
-/

namespace ItemStore.Expression

/-! ### Lexemes -/

/-- The word that has been read, if there is one. -/
def flush (word : List Char) : List String :=
  if word.isEmpty then [] else [String.ofList word]

/--
The words in a text, when part of the first has been read already: names and numbers, placeholders,
and any other character by itself.
-/
def wordsFrom : (word : List Char) → List Char → List String
  | word, [] => flush word
  | word, c :: rest =>
      if Text.isWordChar c then wordsFrom (word ++ [c]) rest
      else if Text.isWhiteSpace c then flush word ++ wordsFrom [] rest
      -- A sigil belongs to the word behind it.
      else if c == '#' || c == ':' then flush word ++ wordsFrom [c] rest
      else flush word ++ String.singleton c :: wordsFrom [] rest

/-- The words in a text. -/
def words (text : String) : List String := wordsFrom [] text.toList

/-- Nothing reaches over a blank. -/
theorem wordsFrom_append_blank (word text rest : List Char) :
    wordsFrom word (text ++ ' ' :: rest) = wordsFrom word text ++ wordsFrom [] rest := by
  induction text generalizing word with
  | nil => rfl
  | cons c text ih =>
      rw [List.cons_append, wordsFrom, wordsFrom, ih, ih, ih]
      split
      · rfl
      · split
        · rw [List.append_assoc]
        · split
          · rw [List.append_assoc]
          · rw [List.append_assoc, List.cons_append]

/-- A word, and in how many parentheses it stands. -/
structure Lexeme where
  /-- The number of parentheses around it. -/
  depth : Nat
  /-- The word. -/
  text : String
deriving DecidableEq, Repr

/-- The depth behind a word. -/
def depthBehind (depth : Nat) (word : String) : Nat :=
  if word = "(" then depth + 1 else if word = ")" then depth - 1 else depth

/-- Words with their depths, from a depth on. -/
def nest : (depth : Nat) → List String → List Lexeme
  | _, [] => []
  | depth, word :: rest => ⟨depth, word⟩ :: nest (depthBehind depth word) rest

/-- Whether all parentheses are closed, and none that are not open, from a depth on. -/
def closes : (depth : Nat) → List String → Bool
  | depth, [] => depth == 0
  | depth, word :: rest =>
      !(depth == 0 && word == ")") && closes (depthBehind depth word) rest

/-- The lexemes of a text. -/
def lexemes (text : String) : List Lexeme := nest 0 (words text)

theorem nest_append {depth : Nat} {left : List String} (h : closes depth left = true)
    (right : List String) : nest depth (left ++ right) = nest depth left ++ nest 0 right := by
  induction left generalizing depth with
  | nil => rw [beq_iff_eq.1 h]; rfl
  | cons word left ih =>
      rw [closes, Bool.and_eq_true] at h
      rw [List.cons_append, nest, nest, ih h.2, List.cons_append]

theorem closes_append {depth : Nat} {left right : List String} (hl : closes depth left = true)
    (hr : closes 0 right = true) : closes depth (left ++ right) = true := by
  induction left generalizing depth with
  | nil => rw [beq_iff_eq.1 hl]; exact hr
  | cons word left ih =>
      rw [closes, Bool.and_eq_true] at hl
      rw [List.cons_append, closes, hl.1, ih hl.2, Bool.and_true]

/-! ### Reading -/

/-- Whether a lexeme is a keyword outside of parentheses. -/
def Lexeme.isKeyword (keyword : String) (lexeme : Lexeme) : Bool :=
  lexeme.depth == 0 && Text.upper lexeme.text == keyword

/-- What is true or false by itself. -/
abbrev Operand := List Lexeme

/-- The operands of an alternative. -/
def operandsOf (lexemes : List Lexeme) : List Operand :=
  lexemes.splitOnP (·.isKeyword Connective.and.keyword)

/-- The alternatives, with their operands. -/
def alternativesOf (lexemes : List Lexeme) : List (List Operand) :=
  (lexemes.splitOnP (·.isKeyword Connective.or.keyword)).map operandsOf

/-- Whether a condition holds, when it is known which operands are true. -/
def Holds (truth : Operand → Prop) (text : String) : Prop :=
  ∃ alternative ∈ alternativesOf (lexemes text), ∀ operand ∈ alternative, truth operand

/-- Whether a condition never holds without a check, whatever is true. -/
def Enforces (text check : String) : Prop :=
  ∀ truth, Holds truth text → truth (lexemes check)

/--
Whether an expression is a single operand: its parentheses are closed, and it has no keyword of a
connective or a negation outside of them.
-/
def isOperand (expression : String) : Bool :=
  !(words expression).isEmpty && closes 0 (words expression) &&
    (lexemes expression).all fun lexeme =>
      !(lexeme.isKeyword "AND" || lexeme.isKeyword "OR" || lexeme.isKeyword "NOT")

section Operands

variable {expression : String} (h : isOperand expression = true)
include h

theorem closes_of_isOperand : closes 0 (words expression) = true := by
  rw [isOperand, Bool.and_eq_true, Bool.and_eq_true] at h
  exact h.1.2

theorem isEmpty_of_isOperand : expression.isEmpty = false := by
  rw [← Bool.not_eq_true, String.isEmpty_iff]
  rintro rfl
  cases h

theorem isKeyword_of_isOperand (connective : Connective) :
    ∀ lexeme ∈ lexemes expression, lexeme.isKeyword connective.keyword = false := by
  intro lexeme mem
  rw [isOperand, Bool.and_eq_true] at h
  have free := List.all_eq_true.1 h.2 lexeme mem
  rw [Bool.not_eq_true', Bool.or_eq_false_iff, Bool.or_eq_false_iff] at free
  cases connective with
  | and => exact free.1.1
  | or => exact free.1.2

end Operands

/-! ### Joined expressions -/

theorem words_joined (text expression : String) (connective : Connective) :
    words (text ++ " " ++ connective.keyword ++ " " ++ expression) =
      words text ++ connective.keyword :: words expression := by
  have chars : (text ++ " " ++ connective.keyword ++ " " ++ expression).toList =
      text.toList ++ ' ' :: (connective.keyword.toList ++ ' ' :: expression.toList) := by simp
  have keyword : wordsFrom [] connective.keyword.toList = [connective.keyword] := by
    cases connective <;> decide
  rw [words, chars, wordsFrom_append_blank, wordsFrom_append_blank, keyword]
  rfl

theorem closes_joined {text expression : String} (ht : closes 0 (words text) = true)
    (he : closes 0 (words expression) = true) (connective : Connective) :
    closes 0 (words (text ++ " " ++ connective.keyword ++ " " ++ expression)) = true := by
  rw [words_joined]
  refine closes_append ht ?_
  cases connective <;> exact he

theorem lexemes_joined {text : String} (h : closes 0 (words text) = true) (expression : String)
    (connective : Connective) :
    lexemes (text ++ " " ++ connective.keyword ++ " " ++ expression) =
      lexemes text ++ ⟨0, connective.keyword⟩ :: lexemes expression := by
  rw [lexemes, words_joined, nest_append h]
  cases connective <;> rfl

/-- Joins expressions to a condition, one after the other. -/
def joinAll (condition : Option String) (joins : List (Connective × String)) : Option String :=
  joins.foldl (fun condition j => some (joinCondition condition j.2 j.1)) condition

/-- What is joined to a condition, as it is read. -/
def joinedLexemes (joins : List (Connective × String)) : List Lexeme :=
  joins.flatMap fun j => ⟨0, j.1.keyword⟩ :: lexemes j.2

/-- Operands that are joined to a condition are read behind it. -/
theorem lexemes_joinAll {joins : List (Connective × String)}
    (operands : ∀ j ∈ joins, isOperand j.2 = true) {condition : String}
    (closed : closes 0 (words condition) = true) (filled : condition.isEmpty = false) :
    ∃ text, joinAll (some condition) joins = some text ∧
      lexemes text = lexemes condition ++ joinedLexemes joins := by
  induction joins generalizing condition with
  | nil => exact ⟨condition, rfl, by rw [joinedLexemes, List.flatMap_nil, List.append_nil]⟩
  | cons j joins ih =>
      have operand := operands j List.mem_cons_self
      have join : joinCondition (some condition) j.2 j.1 =
          condition ++ " " ++ j.1.keyword ++ " " ++ j.2 := by
        rw [joinCondition, filled]
        rfl
      -- An empty condition would be replaced by the next expression.
      have filledNext : (condition ++ " " ++ j.1.keyword ++ " " ++ j.2).isEmpty = false := by
        rw [← Bool.not_eq_true, String.isEmpty_iff]
        intro empty
        have chars := congrArg String.toList empty
        simp at chars
      obtain ⟨text, joined, read⟩ := ih
        (fun other mem => operands other (List.mem_cons_of_mem _ mem))
        (closes_joined closed (closes_of_isOperand operand) j.1) filledNext
      refine ⟨text, ?_, ?_⟩
      · rw [joinAll, List.foldl_cons, join]
        exact joined
      · rw [read, lexemes_joined closed, joinedLexemes, joinedLexemes, List.flatMap_cons,
          List.append_assoc]

/-! ### Alternatives -/

/-- The alternatives of joined expressions, the first of which is given by itself. -/
def alternativesFrom (first : String) : List (Connective × String) → List (List String)
  | [] => [[first]]
  | (.or, next) :: rest => [first] :: alternativesFrom next rest
  | (.and, next) :: rest => (alternativesFrom next rest).modifyHead (first :: ·)

/-- The alternatives of joined expressions; the connective of the first one says nothing. -/
def alternatives : List (Connective × String) → List (List String)
  | [] => []
  | (_, first) :: rest => alternativesFrom first rest

theorem map_modifyHead {α β : Type} (g : α → β) (f : α → α) (f' : β → β)
    (h : ∀ a, g (f a) = f' (g a)) (l : List α) :
    (l.modifyHead f).map g = (l.map g).modifyHead f' := by
  cases l with
  | nil => rfl
  | cons a l => exact congrArg (· :: l.map g) (h a)

/-- What is in front of all separators belongs to the first piece. -/
theorem splitOnP_append {α : Type} {p : α → Bool} {left : List α}
    (h : ∀ a ∈ left, p a = false) (right : List α) :
    (left ++ right).splitOnP p = (right.splitOnP p).modifyHead (left ++ ·) := by
  induction left with
  | nil =>
      rw [List.nil_append]
      cases right.splitOnP p <;> rfl
  | cons a left ih =>
      rw [List.cons_append, List.splitOnP_cons_eq_if_modifyHead, h a List.mem_cons_self,
        ih fun b mem => h b (List.mem_cons_of_mem _ mem)]
      cases right.splitOnP p <;> rfl

theorem operandsOf_of_isOperand {expression : String} (h : isOperand expression = true) :
    operandsOf (lexemes expression) = [lexemes expression] :=
  List.splitOnP_eq_singleton (isKeyword_of_isOperand h .and)

/-- The alternatives of operands are those that the connectives tell. -/
theorem alternativesOf_joined {first : String} (h : isOperand first = true)
    {joins : List (Connective × String)} (operands : ∀ j ∈ joins, isOperand j.2 = true) :
    alternativesOf (lexemes first ++ joinedLexemes joins) =
      (alternativesFrom first joins).map (List.map lexemes) := by
  have noOr := isKeyword_of_isOperand h .or
  have noAnd := isKeyword_of_isOperand h .and
  induction joins generalizing first with
  | nil =>
      rw [joinedLexemes, List.flatMap_nil, List.append_nil, alternativesOf,
        List.splitOnP_eq_singleton noOr, List.map_singleton, operandsOf_of_isOperand h]
      rfl
  | cons j joins ih =>
      obtain ⟨connective, next⟩ := j
      have operand := operands _ List.mem_cons_self
      have rest := ih operand (fun other mem => operands other (List.mem_cons_of_mem _ mem))
        (isKeyword_of_isOperand operand .or) (isKeyword_of_isOperand operand .and)
      have split : joinedLexemes ((connective, next) :: joins) =
          ⟨0, connective.keyword⟩ :: (lexemes next ++ joinedLexemes joins) := by
        rw [joinedLexemes, List.flatMap_cons]
        rfl
      rw [split]
      cases connective with
      | or =>
          rw [alternativesOf, List.splitOnP_append_cons_of_forall_mem noOr _ (by decide),
            List.map_cons, operandsOf_of_isOperand h, alternativesFrom, List.map_cons, ← rest]
          rfl
      | and =>
          -- No keyword OR stands before the rest, so all of that belongs to its first alternative.
          have skip : ∀ lexeme ∈ lexemes first ++ [⟨0, Connective.and.keyword⟩],
              lexeme.isKeyword Connective.or.keyword = false := by
            intro lexeme mem
            rcases List.mem_append.1 mem with mem | mem
            · exact noOr lexeme mem
            · rw [List.mem_singleton.1 mem]
              decide
          -- Within that alternative it is an operand of its own.
          have head : ∀ tail, operandsOf
              (lexemes first ++ [⟨0, Connective.and.keyword⟩] ++ tail) =
                lexemes first :: operandsOf tail := by
            intro tail
            rw [List.append_assoc]
            exact List.splitOnP_append_cons_of_forall_mem noAnd _ (by decide) tail
          rw [alternativesFrom,
            map_modifyHead (List.map lexemes) (first :: ·) (lexemes first :: ·) fun _ => rfl,
            ← rest, alternativesOf, ← List.singleton_append, ← List.append_assoc, splitOnP_append skip,
            map_modifyHead operandsOf _ (lexemes first :: ·) head, alternativesOf]

/-- The text of joined operands is read as the alternatives that the connectives tell. -/
theorem reading_joinAll {joins : List (Connective × String)} (ne : joins ≠ [])
    (operands : ∀ j ∈ joins, isOperand j.2 = true) :
    ∃ text, joinAll none joins = some text ∧
      alternativesOf (lexemes text) = (alternatives joins).map (List.map lexemes) := by
  obtain ⟨⟨connective, first⟩, rest, rfl⟩ := List.exists_cons_of_ne_nil ne
  have operand := operands _ List.mem_cons_self
  have others := fun j mem => operands j (List.mem_cons_of_mem _ mem)
  obtain ⟨text, joined, read⟩ :=
    lexemes_joinAll others (closes_of_isOperand operand) (isEmpty_of_isOperand operand)
  refine ⟨text, joined, ?_⟩
  rw [read, alternativesOf_joined operand others]
  rfl

example : alternativesOf (lexemes "#a = :a OR (#b = :b or #c) AND size(#d) > :d") =
    [[lexemes "#a = :a"], [lexemes "(#b = :b or #c)", lexemes "size(#d) > :d"]] := by
  decide +kernel

/-- A check is enforced just if every alternative demands it. -/
theorem enforces_iff {text check : String} {groups : List (List String)}
    (read : alternativesOf (lexemes text) = groups.map (List.map lexemes)) :
    Enforces text check ↔
      ∀ alternative ∈ groups, ∃ operand ∈ alternative, lexemes operand = lexemes check := by
  rw [Enforces]
  simp only [Holds, read]
  constructor
  · intro enforced alternative mem
    -- Just the operands of this alternative are true.
    have := enforced (fun operand => operand ∈ alternative.map lexemes)
      ⟨_, List.mem_map_of_mem mem, fun operand among => among⟩
    exact List.mem_map.1 this
  · rintro every truth ⟨operands, mem, true⟩
    obtain ⟨alternative, among, rfl⟩ := List.mem_map.1 mem
    obtain ⟨operand, demanded, eq⟩ := every alternative among
    exact eq ▸ true _ (List.mem_map_of_mem demanded)

theorem alternativesFrom_of_ands {joins : List (Connective × String)}
    (ands : ∀ j ∈ joins, j.1 = .and) (first : String) :
    alternativesFrom first joins = [first :: joins.map Prod.snd] := by
  induction joins generalizing first with
  | nil => rfl
  | cons j joins ih =>
      obtain ⟨connective, next⟩ := j
      obtain rfl : connective = .and := ands _ List.mem_cons_self
      rw [alternativesFrom, ih fun other mem => ands other (List.mem_cons_of_mem _ mem)]
      rfl

/-- Expressions that are joined with AND belong to the last alternative. -/
theorem alternativesFrom_append {more : List (Connective × String)}
    (ands : ∀ j ∈ more, j.1 = .and) (first : String) (joins : List (Connective × String)) :
    ∃ groups last, alternativesFrom first joins = groups ++ [last] ∧
      alternativesFrom first (joins ++ more) = groups ++ [last ++ more.map Prod.snd] := by
  induction joins generalizing first with
  | nil => exact ⟨[], [first], rfl, alternativesFrom_of_ands ands first⟩
  | cons j joins ih =>
      obtain ⟨connective, next⟩ := j
      obtain ⟨groups, last, before, after⟩ := ih next
      cases connective with
      | or =>
          refine ⟨[first] :: groups, last, ?_, ?_⟩
          · rw [alternativesFrom, before, List.cons_append]
          · rw [List.cons_append, alternativesFrom, after, List.cons_append]
      | and =>
          rw [List.cons_append, alternativesFrom, alternativesFrom, before, after]
          cases groups with
          | nil => exact ⟨[], first :: last, rfl, rfl⟩
          | cons group groups => exact ⟨(first :: group) :: groups, last, rfl, rfl⟩

end ItemStore.Expression
