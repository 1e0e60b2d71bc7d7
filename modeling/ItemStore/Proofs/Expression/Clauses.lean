import Mathlib
import ItemStore.Expression.Clauses
import ItemStore.Proofs.Expression.Assignment

/-!
# ItemStore.Proofs.Expression.Clauses

How the clauses are read back from an update expression.

An expression is made of words with blanks between them. A keyword starts a clause, which goes on up
to the next one, and the fragments of a clause are what stands between its commas. But a fragment
may have blanks, and commas in parentheses. So it is read back if its parentheses are closed, its
commas stand inside of them, and none of its words is a keyword (`isSeparable`).
-/

namespace ItemStore.Expression

/-! ### Commas outside of parentheses -/

/-- In how many parentheses stands what follows a character. -/
def depthAfter (depth : Nat) (c : Char) : Nat :=
  if c = '(' then depth + 1 else if c = ')' then depth - 1 else depth

/--
Whether all parentheses are closed, and none that are not open, and commas stand inside of them only,
from a depth on.
-/
def isEnclosed : (depth : Nat) → List Char → Bool
  | depth, [] => depth == 0
  | depth, c :: rest =>
      !(depth == 0 && (c == ')' || c == ',')) && isEnclosed (depthAfter depth c) rest

/--
The pieces of a text between commas that stand outside of parentheses and have blanks behind them.
The first piece is begun.
-/
def piecesFrom : (depth : Nat) → (piece : List Char) → List Char → List String
  | _, piece, [] => [String.ofList piece]
  | 0, piece, ',' :: ' ' :: rest => String.ofList piece :: piecesFrom 0 [] rest
  | depth, piece, c :: rest => piecesFrom (depthAfter depth c) (piece ++ [c]) rest

/-- Enclosed text belongs to one piece. -/
theorem piecesFrom_append {depth : Nat} {text : List Char} (h : isEnclosed depth text = true)
    (piece rest : List Char) :
    piecesFrom depth piece (text ++ rest) = piecesFrom 0 (piece ++ text) rest := by
  induction text generalizing depth piece with
  | nil =>
      obtain rfl := beq_iff_eq.1 h
      rw [List.nil_append, List.append_nil]
  | cons c text ih =>
      rw [isEnclosed, Bool.and_eq_true] at h
      obtain ⟨inside, enclosed⟩ := h
      have step : piecesFrom depth piece (c :: (text ++ rest)) =
          piecesFrom (depthAfter depth c) (piece ++ [c]) (text ++ rest) := by
        rw [piecesFrom]
        -- A comma outside of parentheses would end the piece.
        intro more outside comma
        subst outside comma
        cases inside
      rw [List.cons_append, step, ih enclosed, List.append_assoc, List.singleton_append]

/-- Enclosed texts are the pieces of the text that joins them. -/
theorem piecesFrom_intercalate {texts : List String}
    (enclosed : ∀ text ∈ texts, isEnclosed 0 text.toList = true) (ne : texts ≠ []) :
    piecesFrom 0 [] (", ".intercalate texts).toList = texts := by
  induction texts with
  | nil => exact absurd rfl ne
  | cons text rest ih =>
      obtain ⟨first, others⟩ := List.forall_mem_cons.1 enclosed
      cases rest with
      | nil =>
          have whole := piecesFrom_append first [] []
          rw [List.append_nil, List.nil_append, piecesFrom, String.ofList_toList] at whole
          rw [String.intercalate_singleton, whole]
      | cons next more =>
          have chars : (", ".intercalate (text :: next :: more)).toList =
              text.toList ++ ',' :: ' ' :: (", ".intercalate (next :: more)).toList := by
            rw [String.intercalate_cons_cons, String.toList_append, String.toList_append,
              List.append_assoc]
            rfl
          rw [chars, piecesFrom_append first, List.nil_append, piecesFrom,
            ih others (List.cons_ne_nil _ _), String.ofList_toList]

/-! ### Words -/

/-- The words of a text, with a blank between any two of them. Some may be empty. -/
def blankWords (text : String) : List (List Char) := text.toList.splitOn ' '

/-- Whether a word is the keyword of a clause. -/
def isClauseKeyword (word : List Char) : Bool :=
  ClauseKind.order.any fun kind => kind.keyword.toList == word

/-- Whether a fragment can be told from the text around it. -/
def isSeparable (fragment : String) : Bool :=
  isEnclosed 0 fragment.toList && (blankWords fragment).all fun word => !isClauseKeyword word

/-- Texts with a blank between them have the words of both. -/
theorem blankWords_append (left right : String) :
    blankWords (left ++ " " ++ right) = blankWords left ++ blankWords right := by
  have chars : (left ++ " " ++ right).toList = left.toList ++ ' ' :: right.toList := by simp
  rw [blankWords, chars, List.splitOn_append_cons_self]
  rfl

/-- What is put behind a text belongs to its last word, however the first word begins. -/
theorem mem_splitOnPPrepend_push {text begun word : List Char} {c : Char} (visible : c ≠ ' ')
    (mem : word ∈ List.splitOnPPrepend (· == ' ') (text ++ [c]) begun) :
    word ∈ List.splitOnPPrepend (· == ' ') text begun ∨ c ∈ word := by
  induction text generalizing begun with
  | nil =>
      rw [List.nil_append, List.splitOnPPrepend_cons_neg (by simpa using visible)] at mem
      have whole : word = (c :: begun).reverse := List.mem_singleton.1 mem
      right
      rw [whole]
      simp
  | cons d rest ih =>
      rw [List.cons_append] at mem
      by_cases blank : d = ' '
      · subst blank
        rw [List.splitOnPPrepend_cons_pos rfl] at mem ⊢
        rcases List.mem_cons.1 mem with first | mem
        · exact .inl (first ▸ List.mem_cons_self)
        · exact (ih mem).imp_left (List.mem_cons_of_mem _)
      · rw [List.splitOnPPrepend_cons_neg (by simpa using blank)] at mem ⊢
        exact ih mem

theorem blankWords_keyword (kind : ClauseKind) : blankWords kind.keyword = [kind.keyword.toList] := by
  cases kind <;> decide

theorem keyword_injective {kind other : ClauseKind} (h : kind.keyword.toList = other.keyword.toList) :
    kind = other := by
  cases kind <;> cases other <;> first | rfl | exact absurd h (by decide)

theorem isClauseKeyword_keyword (kind : ClauseKind) :
    isClauseKeyword kind.keyword.toList = true := by
  cases kind <;> decide

/-- A word with a character that keywords lack is none of them. -/
theorem isClauseKeyword_of_foreign {word : List Char} {c : Char} (mem : c ∈ word)
    (foreign : ∀ kind ∈ ClauseKind.order, c ∉ kind.keyword.toList) :
    isClauseKeyword word = false := by
  rw [isClauseKeyword, List.any_eq_false]
  intro kind among same
  rw [← beq_iff_eq.1 same] at mem
  exact foreign kind among mem

/-- A list of fragments without keywords has none. -/
theorem not_isClauseKeyword_of_mem_intercalate {texts : List String}
    (free : ∀ text ∈ texts, ∀ word ∈ blankWords text, isClauseKeyword word = false) :
    ∀ word ∈ blankWords (", ".intercalate texts), isClauseKeyword word = false := by
  induction texts with
  | nil => decide
  | cons text rest ih =>
      obtain ⟨first, others⟩ := List.forall_mem_cons.1 free
      cases rest with
      | nil =>
          rw [String.intercalate_singleton]
          exact first
      | cons next more =>
          have joined : ", ".intercalate (text :: next :: more) =
              text ++ "," ++ " " ++ ", ".intercalate (next :: more) := by
            rw [String.intercalate_cons_cons, ← String.toList_inj]
            simp
          rw [joined, blankWords_append]
          intro word mem
          rcases List.mem_append.1 mem with mem | mem
          · have chars : (text ++ ",").toList = text.toList ++ [','] := String.toList_append
            rw [blankWords, chars] at mem
            rcases mem_splitOnPPrepend_push (by decide) mem with mem | comma
            · exact first word mem
            · exact isClauseKeyword_of_foreign comma (by decide)
          · exact ih others word mem

/-! ### Clauses -/

/-- The text behind the keyword of a clause. -/
def Clauses.body (clauses : Clauses) (kind : ClauseKind) : String :=
  ", ".intercalate (clauses.fragments kind)

/-- The words of the clauses of some kinds. -/
def Clauses.words (clauses : Clauses) (kinds : List ClauseKind) : List (List Char) :=
  (kinds.filterMap clauses.clauseText?).flatMap blankWords

/-- What stands between the keyword of a kind and the next keyword, if the keyword is there. -/
def clauseBody? (kind : ClauseKind) (words : List (List Char)) : Option (List Char) :=
  match words.dropWhile (· != kind.keyword.toList) with
  | [] => none
  | _ :: rest => some ([' '].intercalate (rest.takeWhile fun word => !isClauseKeyword word))

/-- The fragments that an expression has in a clause. -/
def readFragments (expression : String) (kind : ClauseKind) : List String :=
  match clauseBody? kind (blankWords expression) with
  | none => []
  | some body => piecesFrom 0 [] body

/-- Whether all fragments can be told from the text around them. -/
def Clauses.IsSeparable (clauses : Clauses) : Prop :=
  ∀ kind, ∀ fragment ∈ clauses.fragments kind, isSeparable fragment = true

section Read

variable {clauses : Clauses}

/-- The words of a clause stand in front of those of the later ones. -/
theorem words_cons (clauses : Clauses) (kind : ClauseKind) (kinds : List ClauseKind) :
    clauses.words (kind :: kinds) =
      if clauses.fragments kind = [] then clauses.words kinds
      else kind.keyword.toList :: (blankWords (clauses.body kind) ++ clauses.words kinds) := by
  cases listed : clauses.fragments kind with
  | nil =>
      have none : clauses.clauseText? kind = none := by rw [Clauses.clauseText?, listed]
      rw [if_pos rfl, Clauses.words, List.filterMap_cons_none none, Clauses.words]
  | cons fragment rest =>
      have some : clauses.clauseText? kind =
          some (kind.keyword ++ " " ++ clauses.body kind) := by
        rw [Clauses.clauseText?, Clauses.body, listed]
      rw [if_neg (List.cons_ne_nil _ _), Clauses.words, List.filterMap_cons_some some,
        List.flatMap_cons, blankWords_append, blankWords_keyword]
      rfl

theorem isClauseKeyword_of_mem_body (h : clauses.IsSeparable) (kind : ClauseKind) :
    ∀ word ∈ blankWords (clauses.body kind), isClauseKeyword word = false := by
  refine not_isClauseKeyword_of_mem_intercalate fun fragment mem word among => ?_
  have free := h kind fragment mem
  rw [isSeparable, Bool.and_eq_true, List.all_eq_true] at free
  simpa using free.2 word among

/-- Just the keywords of the clauses are keywords. -/
theorem eq_keyword_of_mem_words (h : clauses.IsSeparable) {kinds : List ClauseKind}
    {word : List Char} (mem : word ∈ clauses.words kinds) :
    isClauseKeyword word = false ∨ ∃ kind ∈ kinds, word = kind.keyword.toList := by
  induction kinds with
  | nil => cases mem
  | cons kind rest ih =>
      have later : word ∈ clauses.words rest →
          isClauseKeyword word = false ∨ ∃ other ∈ kind :: rest, word = other.keyword.toList :=
        fun mem => (ih mem).imp_right fun ⟨other, among, eq⟩ =>
          ⟨other, List.mem_cons_of_mem _ among, eq⟩
      rw [words_cons] at mem
      split at mem
      · exact later mem
      · rcases List.mem_cons.1 mem with eq | mem
        · exact .inr ⟨kind, List.mem_cons_self, eq⟩
        · rcases List.mem_append.1 mem with mem | mem
          · exact .inl (isClauseKeyword_of_mem_body h kind word mem)
          · exact later mem

/-- A clause ends where the next one starts. -/
theorem takeWhile_words (clauses : Clauses) (kinds : List ClauseKind) :
    (clauses.words kinds).takeWhile (fun word => !isClauseKeyword word) = [] := by
  induction kinds with
  | nil => rfl
  | cons kind rest ih =>
      rw [words_cons]
      split
      · exact ih
      · rw [List.takeWhile_cons_of_neg (by simp [isClauseKeyword_keyword])]

/-- Each clause among some is found by its keyword, if it has fragments. -/
theorem clauseBody?_words (h : clauses.IsSeparable) {kind : ClauseKind} {kinds : List ClauseKind}
    (mem : kind ∈ kinds) (nodup : kinds.Nodup) :
    clauseBody? kind (clauses.words kinds) =
      if clauses.fragments kind = [] then none else some (clauses.body kind).toList := by
  induction kinds with
  | nil => cases mem
  | cons other rest ih =>
      obtain ⟨new, nodup⟩ := List.nodup_cons.1 nodup
      rw [words_cons]
      by_cases same : kind = other
      · subst same
        split
        · -- No other clause has the keyword.
          have none : (clauses.words rest).dropWhile (· != kind.keyword.toList) = [] := by
            rw [List.dropWhile_eq_nil_iff]
            intro word mem
            rw [bne_iff_ne]
            rintro rfl
            rcases eq_keyword_of_mem_words h mem with not | ⟨other, among, eq⟩
            · rw [isClauseKeyword_keyword] at not
              cases not
            · exact new (keyword_injective eq ▸ among)
          rw [clauseBody?, none]
        · have body : ∀ word ∈ blankWords (clauses.body kind),
              (!isClauseKeyword word) = true := by
            intro word mem
            rw [isClauseKeyword_of_mem_body h kind word mem]
            rfl
          rw [clauseBody?, List.dropWhile_cons_of_neg (by simp)]
          show some _ = _
          rw [List.takeWhile_append_of_pos body, takeWhile_words, List.append_nil, blankWords,
            List.intercalate_splitOn]
      · have among := (List.mem_cons.1 mem).resolve_left same
        split
        · exact ih among nodup
        · rename_i listed
          have passed : ∀ word ∈ other.keyword.toList :: blankWords (clauses.body other),
              (word != kind.keyword.toList) = true := by
            intro word mem
            rw [bne_iff_ne]
            rintro rfl
            rcases List.mem_cons.1 mem with eq | mem
            · exact same (keyword_injective eq)
            · have not := isClauseKeyword_of_mem_body h other _ mem
              rw [isClauseKeyword_keyword] at not
              cases not
          rw [← ih among nodup, clauseBody?, clauseBody?, ← List.cons_append,
            List.dropWhile_append_of_pos passed]

theorem blankWords_intercalate {texts : List String} (ne : texts ≠ []) :
    blankWords (" ".intercalate texts) = texts.flatMap blankWords := by
  induction texts with
  | nil => exact absurd rfl ne
  | cons text rest ih =>
      cases rest with
      | nil => simp
      | cons next more =>
          rw [String.intercalate_cons_cons, blankWords_append, ih (List.cons_ne_nil _ _)]
          rfl

/-- There is no expression just if all clauses are empty. -/
theorem expression?_eq_none_iff :
    clauses.expression? = none ↔ ∀ kind, clauses.fragments kind = [] := by
  have each : ∀ kind, clauses.clauseText? kind = none ↔ clauses.fragments kind = [] := by
    intro kind
    unfold Clauses.clauseText?
    split <;> rename_i listed
    · exact iff_of_true rfl listed
    · exact iff_of_false (by simp) listed
  unfold Clauses.expression?
  split <;> rename_i listed
  · rw [List.filterMap_eq_nil_iff] at listed
    refine iff_of_true rfl fun kind => (each kind).1 (listed kind ?_)
    cases kind <;> decide
  · refine iff_of_false (by simp) fun empty => listed ?_
    exact List.filterMap_eq_nil_iff.2 fun kind _ => (each kind).2 (empty kind)

/-- The clauses are read back from their expression. -/
theorem readFragments_of_expression? (h : clauses.IsSeparable) {expression : String}
    (is : clauses.expression? = some expression) (kind : ClauseKind) :
    readFragments expression kind = clauses.fragments kind := by
  have words : blankWords expression = clauses.words ClauseKind.order := by
    unfold Clauses.expression? at is
    split at is
    · cases is
    · rename_i ne
      obtain rfl := Option.some.inj is
      exact blankWords_intercalate ne
  have among : kind ∈ ClauseKind.order := by cases kind <;> decide
  rw [readFragments, words, clauseBody?_words h among (by decide)]
  by_cases listed : clauses.fragments kind = []
  · rw [if_pos listed, listed]
  · rw [if_neg listed]
    refine piecesFrom_intercalate (fun fragment mem => ?_) listed
    exact (Bool.and_eq_true_iff.1 (h kind fragment mem)).1

/-- Clauses have the expression of other clauses only if they are the same. -/
theorem eq_of_expression?_eq {others : Clauses} (h : clauses.IsSeparable)
    (h' : others.IsSeparable) (same : clauses.expression? = others.expression?) :
    clauses = others := by
  have fragments : ∀ kind, clauses.fragments kind = others.fragments kind := by
    intro kind
    cases is : clauses.expression? with
    | none =>
        rw [expression?_eq_none_iff.1 is kind, expression?_eq_none_iff.1 (same ▸ is) kind]
    | some expression =>
        rw [← readFragments_of_expression? h is, ← readFragments_of_expression? h' (same ▸ is)]
  obtain ⟨set, add, remove, delete⟩ := clauses
  obtain rfl : set = others.set := fragments .set
  obtain rfl : add = others.add := fragments .add
  obtain rfl : remove = others.remove := fragments .remove
  obtain rfl : delete = others.delete := fragments .delete
  rfl

/-! Fragments that cannot be told from the text around them may have the expression of others. -/

example : (⟨["a, b"], [], [], []⟩ : Clauses).expression? =
    (⟨["a", "b"], [], [], []⟩ : Clauses).expression? := rfl

example : (⟨["a ADD b"], [], [], []⟩ : Clauses).expression? =
    (⟨["a"], ["b"], [], []⟩ : Clauses).expression? := rfl

end Read

/-! ### Fragments of assignments -/

theorem isEnclosed_append_of_isWord {body : String} (word : IsWord body) (depth : Nat)
    (rest : List Char) : isEnclosed depth (body.toList ++ rest) = isEnclosed depth rest := by
  rw [IsWord] at word
  generalize body.toList = chars at word ⊢
  induction chars with
  | nil => rfl
  | cons c chars ih =>
      obtain ⟨first, others⟩ := List.forall_mem_cons.1 word
      have other : ∀ d, Text.isWordChar d = false → c ≠ d := by
        rintro d not rfl
        rw [first] at not
        cases not
      have opens := other '(' (by decide)
      have closes := other ')' (by decide)
      have comma := other ',' (by decide)
      rw [List.cons_append, isEnclosed, depthAfter, if_neg opens, if_neg closes,
        beq_false_of_ne closes, beq_false_of_ne comma, ih others]
      simp

theorem isEnclosed_of_isWord {body : String} (word : IsWord body) :
    isEnclosed 0 body.toList = true := by
  have all := isEnclosed_append_of_isWord word 0 []
  rwa [List.append_nil] at all

/-- A text without blanks is a single word, and no keyword if it has a character they lack. -/
theorem not_isClauseKeyword_of_foreign {text : String} {c : Char} (whole : ' ' ∉ text.toList)
    (mem : c ∈ text.toList) (foreign : ∀ kind ∈ ClauseKind.order, c ∉ kind.keyword.toList) :
    ∀ word ∈ blankWords text, isClauseKeyword word = false := by
  rw [blankWords, List.splitOn_eq_singleton whole]
  intro word among
  rw [List.mem_singleton.1 among]
  exact isClauseKeyword_of_foreign mem foreign

/-- The fragments of assignments can be told from the text around them. -/
theorem isSeparable_text (form : Form) {body : String} (word : IsWord body) :
    isSeparable (form.text body) = true := by
  have whole : ' ' ∉ body.toList := by
    intro mem
    cases word _ mem
  have name : ∀ part ∈ blankWords (namePlaceholder body), isClauseKeyword part = false :=
    not_isClauseKeyword_of_foreign (c := '#') (by simp [namePlaceholder, whole])
      (by simp [namePlaceholder]) (by decide)
  have value : ∀ part ∈ blankWords (valuePlaceholder body), isClauseKeyword part = false :=
    not_isClauseKeyword_of_foreign (c := ':') (by simp [valuePlaceholder, whole])
      (by simp [valuePlaceholder]) (by decide)
  have equals : ∀ part ∈ blankWords "=", isClauseKeyword part = false := by decide
  have enclosed : isEnclosed 0 (form.text body).toList = true := by
    cases form <;>
      simp [Form.text, Form.fragment, namePlaceholder, valuePlaceholder, isEnclosed, depthAfter,
        isEnclosed_append_of_isWord word, isEnclosed_of_isWord word,
        isEnclosed_of_isWord isWord_incrementBody]
  have free : ∀ part ∈ blankWords (form.text body), isClauseKeyword part = false := by
    cases form with
    | plain =>
        have parts : Form.plain.text body =
            namePlaceholder body ++ " " ++ "=" ++ " " ++ valuePlaceholder body := by
          simp [← String.toList_inj, Form.text, Form.fragment]
        simp only [parts, blankWords_append, List.forall_mem_append]
        exact ⟨⟨name, equals⟩, value⟩
    | ifAbsent =>
        have parts : Form.ifAbsent.text body = namePlaceholder body ++ " " ++ "=" ++ " " ++
            ("if_not_exists(" ++ namePlaceholder body ++ ",") ++ " " ++
            (valuePlaceholder body ++ ")") := by
          simp [← String.toList_inj, Form.text, Form.fragment]
        simp only [parts, blankWords_append, List.forall_mem_append]
        refine ⟨⟨⟨name, equals⟩, ?_⟩, ?_⟩
        · exact not_isClauseKeyword_of_foreign (c := ',') (by simp [namePlaceholder, whole])
            (by simp) (by decide)
        · exact not_isClauseKeyword_of_foreign (c := ')') (by simp [valuePlaceholder, whole])
            (by simp) (by decide)
    | increment =>
        have parts : Form.increment.text body = namePlaceholder body ++ " " ++ "=" ++ " " ++
            namePlaceholder body ++ " " ++ "+" ++ " " ++ valuePlaceholder incrementBody := by
          simp [← String.toList_inj, Form.text, Form.fragment]
        simp only [parts, blankWords_append, List.forall_mem_append]
        exact ⟨⟨⟨⟨name, equals⟩, name⟩, by decide⟩, by decide⟩
  rw [isSeparable, enclosed, Bool.true_and, List.all_eq_true]
  intro part mem
  rw [free part mem]
  rfl

end ItemStore.Expression
