import Mathlib
import ItemStore.Expression.Placeholders

/-!
# ItemStore.Proofs.Expression.Registry

The registry of placeholder bodies: an attribute keeps the body it gets, and no other attribute gets
the same one.

Everything rests on the search for a free candidate. The candidates of a name differ, so among one
more of them than there are taken bodies one is free (`firstFree_eq`). The facts about a registry
are then kept by the two operations on it:

* `Placeholders.Sound`: bodies are distinct, taken, and candidates of their names;
* `Placeholders.Withholds`: a reserved body belongs to no attribute;
* `Placeholders.Spares`: a name of letters and digits has its plain body or can still get it, for
  the bodies of other names differ from it.
-/

namespace ItemStore.Expression

/-! ### Candidates -/

/-- Whether a name consists of ASCII letters and digits. -/
def isAlphanumeric (name : String) : Bool :=
  name.toList.all fun c => Text.isLetter c || Text.isDigit c

/-- Whether a text is made of letters, digits and underscores. -/
def IsWord (text : String) : Prop := ∀ c ∈ text.toList, Text.isWordChar c = true

/-- The candidates for a body differ from each other. -/
theorem candidate_injective {plain : String} {m n : Nat}
    (h : candidate plain m = candidate plain n) : m = n := by
  have behind : ∀ k, plain ≠ plain ++ "_" ++ toString (k + 1) := by
    intro k eq
    have lengths := congrArg (fun s => s.toList.length) eq
    simp at lengths
  cases m with
  | zero =>
      cases n with
      | zero => rfl
      | succ n => exact absurd h (behind n)
  | succ m =>
      cases n with
      | zero => exact absurd h.symm (behind m)
      | succ n => exact Nat.repr_inj.1 ((String.append_right_inj _).1 h)

theorem isWordChar_placeholderChar (c : Char) : Text.isWordChar (placeholderChar c) = true := by
  unfold placeholderChar
  split
  · assumption
  · decide

theorem isWordChar_of_isDigit {c : Char} (h : c.isDigit = true) : Text.isWordChar c = true := by
  have range : '0' ≤ c ∧ c ≤ '9' := by simpa [Char.isDigit, Char.le_def] using h
  simp [Text.isWordChar, Text.isDigit, range]

theorem isWord_candidate (name : String) (n : Nat) : IsWord (candidate (plainBody name) n) := by
  have plain : IsWord (plainBody name) := by
    intro c mem
    rw [plainBody, String.toList_ofList] at mem
    obtain ⟨d, _, rfl⟩ := List.mem_map.1 mem
    exact isWordChar_placeholderChar d
  cases n with
  | zero => exact plain
  | succ n =>
      intro c h
      rw [candidate, String.toList_append, String.toList_append] at h
      rcases List.mem_append.1 h with h | h
      · rcases List.mem_append.1 h with h | h
        · exact plain c h
        · rw [List.mem_singleton.1 h]
          decide
      · rw [Nat.toString_eq_repr, Nat.toList_repr] at h
        exact isWordChar_of_isDigit (Nat.isDigit_of_mem_toDigits (by decide) (by decide) h)

/-- A name that is not empty has no empty candidate. -/
theorem candidate_ne_empty {name : String} (ne : name ≠ "") (n : Nat) :
    candidate (plainBody name) n ≠ "" := by
  intro eq
  have chars := congrArg String.toList eq
  cases n with
  | zero =>
      rw [candidate, plainBody, String.toList_ofList, String.toList_empty,
        List.map_eq_nil_iff] at chars
      exact ne (String.toList_inj.1 chars)
  | succ n => simp [candidate] at chars

theorem placeholderChar_of_alphanumeric {c d : Char} (h : placeholderChar c = d)
    (alphanumeric : (Text.isLetter d || Text.isDigit d) = true) : c = d := by
  unfold placeholderChar at h
  split at h
  · exact h
  · subst h
    exact absurd alphanumeric (by decide)

/-- The first candidate for a name of letters and digits is the name. -/
theorem plainBody_of_isAlphanumeric {name : String} (h : isAlphanumeric name = true) :
    plainBody name = name := by
  have kept : ∀ c ∈ name.toList, placeholderChar c = c := by
    intro c mem
    have alphanumeric := List.all_eq_true.1 h c mem
    rw [placeholderChar, if_pos]
    rw [Text.isWordChar, alphanumeric, Bool.true_or]
  rw [plainBody, List.map_congr_left kept, List.map_id', String.ofList_toList]

/-- A name of letters and digits is no candidate for another name. -/
theorem eq_of_candidate_eq {name other : String} {n : Nat} (h : isAlphanumeric name = true)
    (eq : candidate (plainBody other) n = name) : other = name := by
  subst eq
  cases n with
  | zero =>
      rw [candidate, plainBody, isAlphanumeric, String.toList_ofList, List.all_map] at h
      have kept : ∀ c ∈ other.toList, placeholderChar c = c := fun c mem =>
        (placeholderChar_of_alphanumeric rfl (List.all_eq_true.1 h c mem)).symm
      rw [candidate, plainBody, List.map_congr_left kept, List.map_id', String.ofList_toList]
  | succ n =>
      -- All candidates but the first have an underscore.
      have underscore : '_' ∈ (candidate (plainBody other) (n + 1)).toList := by simp [candidate]
      exact absurd (List.all_eq_true.1 h _ underscore) (by decide)

/-! ### The search for a free body -/

/-- The search stops at a candidate that is free, unless it has run out of steps. -/
theorem firstFree_search (taken : NameSet) (plain : String) (steps n : Nat) :
    ∃ k, n ≤ k ∧ k ≤ n + steps ∧ firstFree taken plain steps n = candidate plain k ∧
      (∀ i, n ≤ i → i < k → taken.contains (candidate plain i) = true) ∧
      (k < n + steps → taken.contains (candidate plain k) = false) := by
  induction steps generalizing n with
  | zero => exact ⟨n, le_refl _, le_refl _, rfl, by omega, by omega⟩
  | succ steps ih =>
      unfold firstFree
      by_cases h : taken.contains (candidate plain n) = true
      · obtain ⟨k, le, bound, eq, before, free⟩ := ih (n + 1)
        rw [if_pos h]
        refine ⟨k, by omega, by omega, eq, fun i lo hi => ?_, fun lt => free (by omega)⟩
        rcases Nat.eq_or_lt_of_le lo with rfl | lt
        · exact h
        · exact before i lt hi
      · -- The search stops here, with steps left.
        rw [if_neg h]
        exact ⟨n, le_refl _, by omega, rfl, by omega, fun _ => by simpa using h⟩

/-- No set has more candidates of a name than it has elements. -/
theorem le_size_of_contains {taken : NameSet} {plain : String} {n : Nat}
    (h : ∀ i < n, taken.contains (candidate plain i) = true) : n ≤ taken.size := by
  have distinct : ((List.range n).map (candidate plain)).Nodup :=
    List.nodup_range.map fun _ _ => candidate_injective
  have among : (List.range n).map (candidate plain) ⊆ taken.names := by
    intro body mem
    obtain ⟨i, lt, rfl⟩ := List.mem_map.1 mem
    exact NameMap.mem_names_iff.2 (h i (List.mem_range.1 lt))
  have := (distinct.subperm among).length_le
  simpa using this

/-- The search for a body finds the first candidate that is free. -/
theorem firstFree_eq (taken : NameSet) (plain : String) :
    ∃ k ≤ taken.size, firstFree taken plain taken.size 0 = candidate plain k ∧
      (∀ i < k, taken.contains (candidate plain i) = true) ∧
      taken.contains (candidate plain k) = false := by
  obtain ⟨k, -, bound, eq, before, free⟩ := firstFree_search taken plain taken.size 0
  rw [Nat.zero_add] at bound free
  refine ⟨k, bound, eq, fun i => before i (Nat.zero_le i), ?_⟩
  by_contra h
  rw [Bool.not_eq_false] at h
  -- With the last one the taken candidates would be one more than the set has elements.
  have last : k = taken.size := by
    by_contra ne
    have := free (by omega)
    rw [h] at this
    cases this
  have := le_size_of_contains (n := k + 1) fun i lt => by
    rcases Nat.eq_or_lt_of_le (Nat.le_of_lt_succ lt) with rfl | lt
    · exact h
    · exact before i (Nat.zero_le i) lt
  omega

namespace Placeholders

variable {registry : Placeholders} {name other b : String}

/-! ### What asking for a body does -/

/-- A name that has a body keeps it, and asking for it again changes nothing. -/
theorem body_of_find? (h : registry.bodies.find? name = some b) :
    registry.body name = (b, registry) := by
  rw [Placeholders.body, h]

/-- A name without a body gets its first candidate that is free. -/
theorem body_of_find?_none (h : registry.bodies.find? name = none) :
    ∃ k, registry.taken.contains (candidate (plainBody name) k) = false ∧
      (∀ i < k, registry.taken.contains (candidate (plainBody name) i) = true) ∧
      registry.body name = (candidate (plainBody name) k,
        ⟨registry.bodies.insert name (candidate (plainBody name) k),
          registry.taken.add (candidate (plainBody name) k)⟩) := by
  obtain ⟨k, -, eq, before, free⟩ := firstFree_eq registry.taken (plainBody name)
  refine ⟨k, free, before, ?_⟩
  rw [Placeholders.body, h, ← eq]

/-- Once asked for, a body belongs to its name. -/
theorem find?_body (registry : Placeholders) (name : String) :
    (registry.body name).2.bodies.find? name = some (registry.body name).1 := by
  cases h : registry.bodies.find? name with
  | some b => rw [body_of_find? h, h]
  | none =>
      obtain ⟨k, -, -, eq⟩ := body_of_find?_none h
      rw [eq, NameMap.find?_insert_self]

/-- Asking for the body of one name leaves those of the others as they are. -/
theorem find?_body_of_ne (registry : Placeholders) (ne : other ≠ name) :
    (registry.body name).2.bodies.find? other = registry.bodies.find? other := by
  cases h : registry.bodies.find? name with
  | some b => rw [body_of_find? h]
  | none =>
      obtain ⟨k, -, -, eq⟩ := body_of_find?_none h
      rw [eq, NameMap.find?_insert, if_neg ne]

/-- Asking for the body of a name gives one to this name only. -/
theorem contains_bodies_body (registry : Placeholders) (name other : String) :
    (registry.body name).2.bodies.contains other = true ↔
      other = name ∨ registry.bodies.contains other = true := by
  by_cases eq : other = name
  · subst eq
    rw [NameMap.contains, find?_body]
    simp
  · rw [NameMap.contains, find?_body_of_ne registry eq]
    simp [NameMap.contains, eq]

/-- A body that a name has stays its body. -/
theorem find?_body_of_find? (h : registry.bodies.find? other = some b) (name : String) :
    (registry.body name).2.bodies.find? other = some b := by
  by_cases eq : other = name
  · subst eq
    rw [body_of_find? h, h]
  · rw [find?_body_of_ne registry eq, h]

/-- Asking for a body never frees one. -/
theorem contains_taken_body (h : registry.taken.contains b = true) (name : String) :
    (registry.body name).2.taken.contains b = true := by
  cases found : registry.bodies.find? name with
  | some b => rw [body_of_find? found, h]
  | none =>
      obtain ⟨k, -, -, eq⟩ := body_of_find?_none found
      rw [eq, NameSet.contains_add, h, Bool.or_true]

/-! ### Sound registries -/

/-- Every body belongs to one name only, is taken, and is a candidate of its name. -/
structure Sound (registry : Placeholders) : Prop where
  /-- No two names share a body. -/
  distinct : ∀ {name other b}, registry.bodies.find? name = some b →
    registry.bodies.find? other = some b → name = other
  /-- A body that a name has is taken. -/
  taken : ∀ {name b}, registry.bodies.find? name = some b →
    registry.taken.contains b = true
  /-- The body of a name is one of its candidates. -/
  isCandidate : ∀ {name b}, registry.bodies.find? name = some b →
    ∃ k, b = candidate (plainBody name) k

theorem sound_empty : Sound ∅ where
  distinct h := by cases h
  taken h := by cases h
  isCandidate h := by cases h

theorem Sound.reserve (h : registry.Sound) (body : String) : (registry.reserve body).Sound where
  distinct := h.distinct
  taken found := by
    rw [Placeholders.reserve, NameSet.contains_add, h.taken found, Bool.or_true]
  isCandidate := h.isCandidate

theorem Sound.body (h : registry.Sound) (name : String) : (registry.body name).2.Sound := by
  cases found : registry.bodies.find? name with
  | some b => rwa [body_of_find? found]
  | none =>
      obtain ⟨k, free, -, eq⟩ := body_of_find?_none found
      -- The new body is free, so no name has had it before.
      have fresh : ∀ other, registry.bodies.find? other ≠ some (candidate (plainBody name) k) := by
        intro other has
        rw [h.taken has] at free
        cases free
      rw [eq]
      refine ⟨?_, ?_, ?_⟩
      · intro first second body hfirst hsecond
        rw [NameMap.find?_insert] at hfirst hsecond
        split at hfirst <;> split at hsecond
        · rename_i eqFirst eqSecond
          rw [eqFirst, eqSecond]
        · obtain rfl := Option.some.inj hfirst
          exact absurd hsecond (fresh second)
        · obtain rfl := Option.some.inj hsecond
          exact absurd hfirst (fresh first)
        · exact h.distinct hfirst hsecond
      · intro other body has
        rw [NameMap.find?_insert] at has
        rw [NameSet.contains_add]
        split at has
        · rw [← Option.some.inj has, beq_self_eq_true, Bool.true_or]
        · rw [h.taken has, Bool.or_true]
      · intro other body has
        rw [NameMap.find?_insert] at has
        split at has
        · rename_i eqOther
          exact ⟨k, by rw [← Option.some.inj has, eqOther]⟩
        · exact h.isCandidate has

/-- The body of a name is made of letters, digits and underscores. -/
theorem Sound.isWord (h : registry.Sound) (found : registry.bodies.find? name = some b) :
    IsWord b := by
  obtain ⟨k, rfl⟩ := h.isCandidate found
  exact isWord_candidate name k

/-- Only the empty name may have the empty body. -/
theorem Sound.ne_empty (h : registry.Sound) (found : registry.bodies.find? name = some b)
    (ne : name ≠ "") : b ≠ "" := by
  obtain ⟨k, rfl⟩ := h.isCandidate found
  exact candidate_ne_empty ne k

/-! ### Reserved bodies -/

/-- A body that is taken and that a name does not have, so the name will never get it. -/
structure Denies (registry : Placeholders) (name b : String) : Prop where
  /-- The body is taken. -/
  taken : registry.taken.contains b = true
  /-- The name does not have it. -/
  other : registry.bodies.find? name ≠ some b

/-- A name that has no body yet does not get one that is reserved. -/
theorem denies_reserve (h : registry.bodies.find? name = none) (b : String) :
    (registry.reserve b).Denies name b := by
  refine ⟨?_, fun has => ?_⟩
  · rw [Placeholders.reserve, NameSet.contains_add, beq_self_eq_true, Bool.true_or]
  · rw [Placeholders.reserve, h] at has
    cases has

theorem Denies.reserve (h : registry.Denies name b) (body : String) :
    (registry.reserve body).Denies name b := by
  refine ⟨?_, h.other⟩
  rw [Placeholders.reserve, NameSet.contains_add, h.taken, Bool.or_true]

theorem Denies.body (h : registry.Denies other b) (name : String) :
    (registry.body name).2.Denies other b := by
  refine ⟨contains_taken_body h.taken name, fun has => ?_⟩
  by_cases eq : other = name
  · subst eq
    cases found : registry.bodies.find? other with
    | some body =>
        rw [body_of_find? found] at has
        exact h.other has
    | none =>
        obtain ⟨k, free, -, eq⟩ := body_of_find?_none found
        rw [eq, NameMap.find?_insert_self] at has
        rw [Option.some.inj has, h.taken] at free
        cases free
  · rw [find?_body_of_ne registry eq] at has
    exact h.other has

/-- A body that belongs to no name, and never will. -/
structure Withholds (registry : Placeholders) (b : String) : Prop where
  /-- The body is taken. -/
  taken : registry.taken.contains b = true
  /-- No name has it. -/
  unused : ∀ name, registry.bodies.find? name ≠ some b

theorem Withholds.body (h : registry.Withholds b) (name : String) :
    (registry.body name).2.Withholds b := by
  refine ⟨contains_taken_body h.taken name, fun other => ?_⟩
  have denies : registry.Denies other b := ⟨h.taken, h.unused other⟩
  exact (denies.body name).other

/-! ### Names of letters and digits -/

/-- A name has its plain body, or can still get it. -/
def Spares (registry : Placeholders) (name : String) : Prop :=
  registry.bodies.find? name = some name ∨
    registry.bodies.find? name = none ∧ registry.taken.contains name = false

theorem Spares.body (h : registry.Spares name) (alphanumeric : isAlphanumeric name = true)
    (other : String) : (registry.body other).2.Spares name := by
  rcases h with has | ⟨none, free⟩
  · exact .inl (find?_body_of_find? has other)
  · by_cases eq : name = other
    · subst eq
      left
      obtain ⟨k, -, before, eq⟩ := body_of_find?_none none
      rw [plainBody_of_isAlphanumeric alphanumeric] at before eq
      -- The name is free, so the search stops at the first candidate.
      have first : k = 0 := by
        by_contra ne
        have := before 0 (by omega)
        rw [candidate, free] at this
        cases this
      rw [eq, first, NameMap.find?_insert_self, candidate]
    · right
      refine ⟨by rw [find?_body_of_ne registry eq, none], ?_⟩
      cases found : registry.bodies.find? other with
      | some b => rwa [body_of_find? found]
      | none =>
          obtain ⟨k, -, -, eqBody⟩ := body_of_find?_none found
          have ne : name ≠ candidate (plainBody other) k := fun eqName =>
            eq (eq_of_candidate_eq alphanumeric eqName.symm).symm
          rw [eqBody, NameSet.contains_add, free, Bool.or_false]
          exact beq_false_of_ne ne

/-- The body of a name that is spared is the name itself. -/
theorem Spares.body_eq (h : registry.Spares name) (alphanumeric : isAlphanumeric name = true) :
    (registry.body name).1 = name := by
  have found := find?_body registry name
  -- Now it has a body, so it is not that it can still get one.
  rcases h.body alphanumeric name with has | ⟨none, -⟩
  · rw [has] at found
    exact (Option.some.inj found).symm
  · rw [none] at found
    cases found

end Placeholders

end ItemStore.Expression
