import Mathlib
import ItemStore.Expression.Projection
import ItemStore.Proofs.Expression.Assignment
import ItemStore.Proofs.FirstOccurrences

/-!
# ItemStore.Proofs.Expression.Projection

What a projection asks for, behind any requests.

Requests ask for the attributes whose names are not blank, each at its first occurrence
(`Projection.requested`). A projection keeps to that: `Projection.Faithful` compares its tokens, the
names of its placeholders and its expression with the requests.

The invariant behind it is `Projection.Tracks`: the attributes of the tokens are those requested,
the registry is sound, and each token has the form and the body that the first request for its
attribute gave it.

A projection keeps its tokens only. `Ledger` keeps the attributes, the texts and the names beside
the registry, as lists of their own, and they stay in step with the tokens (`ledger_push`).
-/

namespace ItemStore.Expression

/-! ### Lists in a text -/

/-- The parts of a text between commas with blanks behind them, the first of which is begun. -/
def partsFrom : (part : List Char) → List Char → List String
  | part, [] => [String.ofList part]
  | part, ',' :: ' ' :: rest => String.ofList part :: partsFrom [] rest
  | part, c :: rest => partsFrom (part ++ [c]) rest

/-- The parts of a text between commas with blanks behind them. -/
def parts (text : String) : List String := partsFrom [] text.toList

/-- A text without commas belongs to one part. -/
theorem partsFrom_append {text : List Char} (free : ',' ∉ text) (part rest : List Char) :
    partsFrom part (text ++ rest) = partsFrom (part ++ text) rest := by
  induction text generalizing part with
  | nil => rw [List.nil_append, List.append_nil]
  | cons c text ih =>
      obtain ⟨ne, free⟩ := not_or.1 (mt List.mem_cons.2 free)
      have step : partsFrom part (c :: (text ++ rest)) =
          partsFrom (part ++ [c]) (text ++ rest) := by
        rw [partsFrom]
        exact fun _ eq => absurd eq.symm ne
      rw [List.cons_append, step, ih free, List.append_assoc, List.singleton_append]

/-- Texts without commas are the parts of the text that joins them. -/
theorem parts_intercalate {texts : List String} (free : ∀ text ∈ texts, ',' ∉ text.toList)
    (ne : texts ≠ []) : parts (", ".intercalate texts) = texts := by
  induction texts with
  | nil => exact absurd rfl ne
  | cons text rest ih =>
      obtain ⟨freeText, freeRest⟩ := List.forall_mem_cons.1 free
      cases rest with
      | nil =>
          have whole := partsFrom_append freeText [] []
          rw [List.append_nil, List.nil_append, partsFrom, String.ofList_toList] at whole
          rw [String.intercalate_singleton, parts, whole]
      | cons next more =>
          have chars : (", ".intercalate (text :: next :: more)).toList =
              text.toList ++ ',' :: ' ' :: (", ".intercalate (next :: more)).toList := by
            rw [String.intercalate_cons_cons, String.toList_append, String.toList_append,
              List.append_assoc]
            rfl
          have others : partsFrom [] (", ".intercalate (next :: more)).toList = next :: more :=
            ih freeRest (List.cons_ne_nil _ _)
          rw [parts, chars, partsFrom_append freeText, List.nil_append, partsFrom, others,
            String.ofList_toList]

/-! ### Texts of tokens -/

/-- Whether a text starts as the placeholders of names do. -/
def isPlaceholder (text : String) : Bool := text.toList.head? == some '#'

theorem isPlaceholder_namePlaceholder (body : String) :
    isPlaceholder (namePlaceholder body) = true := by
  rw [isPlaceholder, namePlaceholder, String.toList_append]
  rfl

/-- A bare identifier is a word, and starts as no placeholder does. -/
theorem isWord_of_isBare {name : String} (bare : isBare name = true) :
    IsWord name ∧ isPlaceholder name = false := by
  unfold isBare at bare
  unfold IsWord isPlaceholder
  split at bare
  · cases bare
  · rename_i first rest chars
    obtain ⟨letter, words⟩ := Bool.and_eq_true_iff.1 bare
    rw [chars]
    refine ⟨List.forall_mem_cons.2 ⟨?_, List.all_eq_true.1 words⟩, ?_⟩
    · rw [Text.isWordChar, letter, Bool.true_or, Bool.true_or]
    · rw [List.head?_cons, beq_eq_false_iff_ne]
      intro eq
      rw [Option.some.inj eq] at letter
      cases letter

theorem not_mem_comma_of_isWord {text : String} (word : IsWord text) : ',' ∉ text.toList := by
  intro mem
  cases word _ mem

theorem resolve?_namePlaceholder (names : NameMap String) (body : String) :
    resolve? names (namePlaceholder body) = names.find? (namePlaceholder body) := by
  have starts := isPlaceholder_namePlaceholder body
  rw [isPlaceholder, beq_iff_eq] at starts
  rw [resolve?, if_pos starts]

theorem resolve?_of_not_isPlaceholder (names : NameMap String) {text : String}
    (h : isPlaceholder text = false) : resolve? names text = some text := by
  rw [isPlaceholder, beq_eq_false_iff_ne] at h
  rw [resolve?, if_neg h]

namespace Projection

/-! ### Requests -/

/-- A request for an attribute. -/
inductive Request
  /-- By its name, or by a placeholder if its name cannot be written as it is. -/
  | literal (attr : String)
  /-- By a placeholder. -/
  | placeholder (attr : String)
deriving DecidableEq, Repr

/-- The attribute that is asked for. -/
def Request.attr : Request → String
  | .literal attr => attr
  | .placeholder attr => attr

/-- Whether a request asks for the name itself, and it can be written as it is. -/
def Request.isBare : Request → Bool
  | .literal attr => !needsPlaceholder attr
  | .placeholder _ => false

/-- Takes a request. -/
def push (projection : Projection) : Request → Projection
  | .literal attr => projection.pushLiteral attr
  | .placeholder attr => projection.pushPlaceholder attr

/-- Takes requests one after the other. -/
def pushAll (projection : Projection) (requests : List Request) : Projection :=
  requests.foldl push projection

/-- The attributes that are asked for: no blank names, and each at its first occurrence. -/
def requested (requests : List Request) : List String :=
  ((requests.map Request.attr).filter fun attr => !Text.isBlank attr).eraseDups

/-- The first request for an attribute. -/
def first? (requests : List Request) (attr : String) : Option Request :=
  requests.find? fun request => request.attr == attr

variable {requests : List Request} {projection : Projection} {attr body : String}

theorem mem_requested_iff :
    attr ∈ requested requests ↔
      Text.isBlank attr = false ∧ ∃ request ∈ requests, request.attr = attr := by
  rw [requested, List.mem_eraseDups, List.mem_filter, List.mem_map, Bool.not_eq_true']
  exact and_comm

/-- A further request counts if its attribute is neither blank nor asked for already. -/
theorem requested_concat (requests : List Request) (request : Request) :
    requested (requests ++ [request]) =
      if Text.isBlank request.attr = false ∧ request.attr ∉ requested requests then
        requested requests ++ [request.attr]
      else requested requests := by
  rw [requested, List.map_append, List.filter_append, List.map_singleton]
  by_cases blank : Text.isBlank request.attr = true
  · rw [List.filter_cons_of_neg (by simp [blank]), List.filter_nil, List.append_nil,
      if_neg fun both => by simp [blank] at both]
    rfl
  · rw [Bool.not_eq_true] at blank
    rw [List.filter_cons_of_pos (by simp [blank]), List.filter_nil, eraseDups_concat]
    by_cases mem : request.attr ∈ requested requests
    · rw [if_pos (List.mem_eraseDups.1 mem), if_neg fun both => both.2 mem, List.append_nil]
      rfl
    · rw [if_neg (mt List.mem_eraseDups.2 mem), if_pos ⟨blank, mem⟩]
      rfl

/-- The first request for an attribute stays the first. -/
theorem first?_concat {request : Request} (h : first? requests attr = some request)
    (next : Request) : first? (requests ++ [next]) attr = some request := by
  rw [first?] at h ⊢
  rw [List.find?_append, h, Option.some_or]

theorem first?_concat_self {next : Request} (new : ∀ request ∈ requests, request.attr ≠ next.attr) :
    first? (requests ++ [next]) next.attr = some next := by
  have none : requests.find? (fun request => request.attr == next.attr) = none :=
    List.find?_eq_none.2 fun request mem => by simpa using new request mem
  rw [first?, List.find?_append, none, Option.none_or]
  simp

/-- Whether the first request for an attribute is for its name, and the name is bare. -/
theorem isBare_first?_iff {request : Request} (h : first? requests attr = some request) :
    request.isBare = true ↔
      first? requests attr = some (.literal attr) ∧ needsPlaceholder attr = false := by
  have same : request.attr = attr := by
    have found := List.find?_some h
    rwa [beq_iff_eq] at found
  subst same
  rw [h]
  cases request with
  | literal attr => simp [Request.isBare, Request.attr]
  | placeholder attr => simp [Request.isBare]

theorem push_eq (projection : Projection) (request : Request) :
    projection.push request =
      if projection.admits request.attr then
        if request.isBare then
          { projection with tokens := projection.tokens ++ [.literal request.attr] }
        else projection.addPlaceholder request.attr
      else projection := by
  cases request with
  | literal attr =>
      rw [push, pushLiteral, Request.attr, Request.isBare]
      cases needsPlaceholder attr <;> rfl
  | placeholder attr => rfl

/-! ### What requests leave behind -/

/-- Whether a token has the form that requests give it, and the body that a registry has for it. -/
def Founded (requests : List Request) (registry : Placeholders) : Token → Prop
  | .literal attr => ∃ request, first? requests attr = some request ∧ request.isBare = true
  | .placeholder attr body =>
      (∃ request, first? requests attr = some request ∧ request.isBare = false) ∧
        registry.bodies.find? attr = some body

/-- Whether a projection is what requests make of the empty one. -/
structure Tracks (requests : List Request) (projection : Projection) : Prop where
  /-- The tokens are for the attributes asked for. -/
  attrs : projection.attrs = requested requests
  /-- The registry is sound. -/
  sound : projection.placeholders.Sound
  /-- The tokens are as the requests want them. -/
  tokens : ∀ token ∈ projection.tokens, Founded requests projection.placeholders token

theorem tracks_empty : Tracks [] ∅ :=
  ⟨rfl, Placeholders.sound_empty, fun _ mem => absurd mem List.not_mem_nil⟩

/-- A token stays founded when further requests come and further names get bodies. -/
theorem Founded.concat {registry later : Placeholders} {token : Token}
    (h : Founded requests registry token) (next : Request)
    (keeps : ∀ {attr body}, registry.bodies.find? attr = some body →
      later.bodies.find? attr = some body) :
    Founded (requests ++ [next]) later token := by
  cases token with
  | literal attr =>
      obtain ⟨request, first, bare⟩ := h
      exact ⟨request, first?_concat first next, bare⟩
  | placeholder attr body =>
      obtain ⟨⟨request, first, bare⟩, has⟩ := h
      exact ⟨⟨request, first?_concat first next, bare⟩, keeps has⟩

theorem admits_iff (h : Tracks requests projection) :
    projection.admits attr = true ↔ Text.isBlank attr = false ∧ attr ∉ requested requests := by
  simp [admits, h.attrs]

/-- A further request adds the token that it wants, if it counts. -/
theorem Tracks.push (h : Tracks requests projection) (next : Request) :
    Tracks (requests ++ [next]) (projection.push next) := by
  rw [push_eq]
  by_cases admits : projection.admits next.attr = true
  · obtain ⟨named, new⟩ := (admits_iff h).1 admits
    have first : first? (requests ++ [next]) next.attr = some next :=
      first?_concat_self fun request mem eq => new (mem_requested_iff.2 ⟨named, request, mem, eq⟩)
    have attrs : projection.attrs ++ [next.attr] = requested (requests ++ [next]) := by
      rw [requested_concat, if_pos ⟨named, new⟩, h.attrs]
    rw [if_pos admits]
    cases bare : next.isBare with
    | true =>
        rw [if_pos rfl]
        refine ⟨?_, h.sound, fun token mem => ?_⟩
        · rw [← attrs, Projection.attrs, List.map_append]
          rfl
        · rcases List.mem_append.1 mem with mem | mem
          · exact (h.tokens token mem).concat next id
          · rw [List.mem_singleton.1 mem]
            exact ⟨next, first, bare⟩
    | false =>
        rw [if_neg Bool.false_ne_true]
        refine ⟨?_, h.sound.body next.attr, fun token mem => ?_⟩
        · rw [← attrs, Projection.attrs, addPlaceholder, List.map_append]
          rfl
        · rcases List.mem_append.1 mem with mem | mem
          · exact (h.tokens token mem).concat next fun has =>
              Placeholders.find?_body_of_find? has next.attr
          · rw [List.mem_singleton.1 mem]
            exact ⟨⟨next, first, bare⟩, Placeholders.find?_body _ _⟩
  · have same : requested (requests ++ [next]) = requested requests := by
      rw [requested_concat, if_neg (mt (admits_iff h).2 admits)]
    rw [if_neg admits]
    exact ⟨h.attrs.trans same.symm, h.sound, fun token mem => (h.tokens token mem).concat next id⟩

theorem Tracks.pushAll (h : Tracks requests projection) (more : List Request) :
    Tracks (requests ++ more) (projection.pushAll more) := by
  induction more generalizing requests projection with
  | nil => rwa [List.append_nil]
  | cons next rest ih =>
      have all := ih (h.push next)
      rwa [List.append_assoc, List.singleton_append] at all

/-! ### What is worked out from the tokens -/

/-- The texts of the tokens. -/
def texts (projection : Projection) : List String := projection.tokens.map Token.text

/-- What could be kept along with the placeholders, each for itself, in place of the tokens. -/
structure Ledger where
  /-- The bodies of the placeholders. -/
  placeholders : Placeholders := ∅
  /-- The attributes asked for. -/
  attrs : NameSet := ∅
  /-- The tokens as the expression has them. -/
  texts : List String := []
  /-- What the placeholders stand for. -/
  names : NameMap String := ∅

/-- Takes a request; each of the four is brought up to date on its own. -/
def Ledger.push (ledger : Ledger) (request : Request) : Ledger :=
  if Text.isBlank request.attr || ledger.attrs.contains request.attr then ledger
  else
    let attrs := ledger.attrs.add request.attr
    if request.isBare then { ledger with attrs, texts := ledger.texts ++ [request.attr] }
    else
      let (body, placeholders) := ledger.placeholders.body request.attr
      let text := namePlaceholder body
      ⟨placeholders, attrs, ledger.texts ++ [text], ledger.names.insert text request.attr⟩

/-- What a projection works out from its tokens. -/
def ledger (projection : Projection) : Ledger :=
  ⟨projection.placeholders, NameSet.addAll ∅ projection.attrs, projection.texts, projection.names⟩

theorem contains_addAll_empty (names : List String) (name : String) :
    (NameSet.addAll ∅ names).contains name = names.contains name := by
  rw [Bool.eq_iff_iff, NameSet.addAll, NameMap.contains_insertAll, List.map_map]
  simp

/-- What is worked out from the tokens stays in step with them. -/
theorem ledger_push (projection : Projection) (request : Request) :
    (projection.push request).ledger = projection.ledger.push request := by
  have attrs (attrs : List String) (attr : String) :
      NameSet.addAll ∅ (attrs ++ [attr]) = (NameSet.addAll ∅ attrs).add attr := by
    rw [NameSet.addAll, List.map_append, NameMap.insertAll_append]
    rfl
  have names (entries : List (String × String)) (text attr : String) :
      NameMap.ofList (entries ++ [(text, attr)]) = (NameMap.ofList entries).insert text attr :=
    NameMap.insertAll_append _ entries [(text, attr)]
  have admits : projection.admits request.attr =
      !(Text.isBlank request.attr || projection.ledger.attrs.contains request.attr) := by
    rw [Projection.admits, ledger, contains_addAll_empty, Bool.not_or]
  rw [push_eq, admits, Ledger.push]
  cases Text.isBlank request.attr || projection.ledger.attrs.contains request.attr with
  | true => rfl
  | false =>
      cases request.isBare with
      | true =>
          simp only [Bool.not_false, if_true, Bool.false_eq_true, if_false, ledger, Projection.attrs,
            texts, Projection.names, List.map_append, List.map_singleton, List.filterMap_append,
            List.filterMap_cons, List.filterMap_nil, List.append_nil, Token.attr, Token.text,
            Token.nameEntry?, attrs]
      | false =>
          simp only [Bool.not_false, if_true, Bool.false_eq_true, if_false, ledger, Projection.attrs,
            texts, Projection.names, addPlaceholder, List.map_append, List.map_singleton,
            List.filterMap_append, List.filterMap_cons, List.filterMap_nil, Token.attr, Token.text,
            Token.nameEntry?, attrs, names]

theorem ledger_pushAll (projection : Projection) (requests : List Request) :
    (projection.pushAll requests).ledger = requests.foldl Ledger.push projection.ledger := by
  induction requests generalizing projection with
  | nil => rfl
  | cons request rest ih => exact (ih _).trans (by rw [ledger_push, List.foldl_cons])

/-! ### What the expression and the names say -/

namespace Tracks

variable (h : Tracks requests projection)

include h

/-- A token by name is a bare identifier that is not reserved. -/
theorem needsPlaceholder_eq_false (mem : .literal attr ∈ projection.tokens) :
    needsPlaceholder attr = false := by
  obtain ⟨request, first, bare⟩ := h.tokens _ mem
  exact ((isBare_first?_iff first).1 bare).2

theorem isBare (mem : .literal attr ∈ projection.tokens) : Expression.isBare attr = true := by
  have needs := h.needsPlaceholder_eq_false mem
  rw [needsPlaceholder, Bool.or_eq_false_iff, Bool.not_eq_false'] at needs
  exact needs.1

theorem find?_bodies (mem : .placeholder attr body ∈ projection.tokens) :
    projection.placeholders.bodies.find? attr = some body :=
  (h.tokens _ mem).2

/-- A placeholder stands for the attribute of its token. -/
theorem find?_names (mem : .placeholder attr body ∈ projection.tokens) :
    projection.names.find? (namePlaceholder body) = some attr := by
  have entry : (namePlaceholder body, attr) ∈ projection.tokens.filterMap Token.nameEntry? :=
    List.mem_filterMap.2 ⟨_, mem, rfl⟩
  refine NameMap.find?_insertAll_of_mem (List.mem_map_of_mem entry) ?_ _
  intro pair among same
  obtain ⟨token, memToken, is⟩ := List.mem_filterMap.1 among
  cases token with
  | literal other => cases is
  | placeholder other otherBody =>
      cases is
      -- Placeholders are the same only if their bodies are, and these belong to one name each.
      obtain rfl := Sigil.name.placeholder_injective same
      exact h.sound.distinct (h.find?_bodies memToken) (h.find?_bodies mem)

/-- A token is read as its attribute. -/
theorem resolve?_text {token : Token} (mem : token ∈ projection.tokens) :
    resolve? projection.names token.text = some token.attr := by
  cases token with
  | literal attr =>
      exact resolve?_of_not_isPlaceholder _ (isWord_of_isBare (h.isBare mem)).2
  | placeholder attr body =>
      exact (resolve?_namePlaceholder _ body).trans (h.find?_names mem)

theorem not_mem_comma {token : Token} (mem : token ∈ projection.tokens) :
    ',' ∉ token.text.toList := by
  cases token with
  | literal attr => exact not_mem_comma_of_isWord (isWord_of_isBare (h.isBare mem)).1
  | placeholder attr body =>
      have free := not_mem_comma_of_isWord (h.sound.isWord (h.find?_bodies mem))
      intro comma
      have chars : (namePlaceholder body).toList = '#' :: body.toList :=
        Sigil.name.toList_placeholder body
      rw [Token.text, chars, List.mem_cons] at comma
      exact comma.elim (by decide) free

/-- A token is a placeholder unless the first request for its attribute is for a bare name. -/
theorem isPlaceholder_text_iff {token : Token} (mem : token ∈ projection.tokens) :
    isPlaceholder token.text = false ↔
      first? requests token.attr = some (.literal token.attr) ∧
        needsPlaceholder token.attr = false := by
  cases token with
  | literal attr =>
      obtain ⟨request, first, bare⟩ := h.tokens _ mem
      exact ⟨fun _ => (isBare_first?_iff first).1 bare,
        fun _ => (isWord_of_isBare (h.isBare mem)).2⟩
  | placeholder attr body =>
      obtain ⟨⟨request, first, bare⟩, -⟩ := h.tokens _ mem
      have shown : isPlaceholder (Token.placeholder attr body).text = true :=
        isPlaceholder_namePlaceholder body
      have other := mt (isBare_first?_iff first).2 (Bool.eq_false_iff.1 bare)
      rw [shown]
      constructor
      · intro not
        cases not
      · intro both
        exact absurd both other

end Tracks

/-- Whether tokens, names and expression of a projection say what requests ask for. -/
structure Faithful (requests : List Request) (projection : Projection) : Prop where
  /-- The tokens are read as the attributes asked for, in order. -/
  resolves : projection.texts.map (resolve? projection.names) = (requested requests).map some
  /-- No two tokens are the same. -/
  distinct : projection.texts.Nodup
  /-- Just the tokens that are placeholders stand for something. -/
  names : ∀ text, projection.names.contains text = true ↔
    text ∈ projection.texts ∧ isPlaceholder text = true
  /-- A token is a name if its attribute was first asked for by name, and needs no placeholder. -/
  literal : ∀ text ∈ projection.texts, ∀ attr, resolve? projection.names text = some attr →
    (isPlaceholder text = false ↔
      first? requests attr = some (.literal attr) ∧ needsPlaceholder attr = false)
  /-- Names in the expression are bare identifiers and not reserved. -/
  bare : ∀ text ∈ projection.texts, isPlaceholder text = false →
    Expression.isBare text = true ∧ isReserved text = false
  /-- There is no expression if nothing is asked for. -/
  silent : requested requests = [] → projection.expression? = none
  /-- The expression is made up of the tokens. -/
  parts : requested requests ≠ [] →
    ∃ text, projection.expression? = some text ∧ parts text = projection.texts

theorem Tracks.faithful (h : Tracks requests projection) : Faithful requests projection := by
  have resolves : projection.texts.map (resolve? projection.names) =
      (requested requests).map some := by
    rw [← h.attrs, texts, Projection.attrs, List.map_map, List.map_map]
    exact List.map_congr_left fun token mem => h.resolve?_text mem
  have empty : projection.tokens = [] ↔ requested requests = [] := by
    rw [← h.attrs, Projection.attrs, List.map_eq_nil_iff]
  constructor
  · exact resolves
  · refine List.Nodup.of_map (resolve? projection.names) ?_
    rw [resolves]
    exact (nodup_eraseDups _).map (Option.some_injective _)
  · intro text
    rw [Projection.names, NameMap.ofList, NameMap.contains_insertAll]
    constructor
    · intro has
      obtain ⟨pair, among, rfl⟩ := List.mem_map.1 (has.resolve_right Bool.false_ne_true)
      obtain ⟨token, mem, is⟩ := List.mem_filterMap.1 among
      cases token with
      | literal attr => cases is
      | placeholder attr body =>
          cases is
          exact ⟨List.mem_map_of_mem mem, isPlaceholder_namePlaceholder body⟩
    · intro both
      obtain ⟨token, mem, rfl⟩ := List.mem_map.1 both.1
      cases token with
      | literal attr =>
          have starts := both.2
          rw [Token.text, (isWord_of_isBare (h.isBare mem)).2] at starts
          cases starts
      | placeholder attr body =>
          have entry : (namePlaceholder body, attr) ∈
              projection.tokens.filterMap Token.nameEntry? := List.mem_filterMap.2 ⟨_, mem, rfl⟩
          exact .inl (List.mem_map_of_mem entry)
  · intro text mem attr stands
    obtain ⟨token, memToken, rfl⟩ := List.mem_map.1 mem
    rw [h.resolve?_text memToken] at stands
    obtain rfl := Option.some.inj stands
    exact h.isPlaceholder_text_iff memToken
  · intro text mem starts
    obtain ⟨token, memToken, rfl⟩ := List.mem_map.1 mem
    cases token with
    | literal attr =>
        have needs := h.needsPlaceholder_eq_false memToken
        rw [needsPlaceholder, Bool.or_eq_false_iff, Bool.not_eq_false'] at needs
        exact needs
    | placeholder attr body =>
        rw [Token.text, isPlaceholder_namePlaceholder] at starts
        cases starts
  · intro none
    rw [expression?, empty.2 none]
  · intro some
    have ne : projection.texts ≠ [] := mt (fun nil => empty.1 (List.map_eq_nil_iff.1 nil)) some
    refine ⟨", ".intercalate projection.texts, ?_, parts_intercalate ?_ ne⟩
    · unfold expression?
      split
      · rename_i nil
        exact absurd (empty.1 nil) some
      · rfl
    · exact List.forall_mem_map.2 fun token mem => h.not_mem_comma mem

/-- Behind any requests a projection says what they ask for. -/
theorem faithful_pushAll (requests : List Request) :
    Faithful requests ((∅ : Projection).pushAll requests) :=
  (tracks_empty.pushAll requests).faithful

end Projection

end ItemStore.Expression
