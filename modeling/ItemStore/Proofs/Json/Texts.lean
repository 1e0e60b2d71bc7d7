import Mathlib
import ItemStore.Proofs.Json.Grammar

/-!
# ItemStore.Proofs.Json.Texts

The reader and the texts of documents: a source is read as the outline of a document, with nothing
behind it, exactly if it is a text of this document (`isTextOf_iff_read`).

What the grammar derives, the reader finds, by induction on the derivation (`Spells.read`). What the
reader finds with some fuel, the grammar derives, by induction on the fuel (`sound`). White space is
where the two differ: the grammar leaves it where it stands, and the reader skips it in front of
each value but leaves it behind.
-/

namespace ItemStore.Json

open ItemStore.Text (Source)

open Reader (skip skip_of_blank skip_of_blank_cons length_le_of_blank)

variable {source rest : Source}

/-! ### Lengths -/

theorem UnitEscape.length_le {n : Nat} (h : UnitEscape n source rest) :
    rest.length ≤ source.length := by
  obtain ⟨-, -, -, -⟩ := h
  simp only [List.length_cons]
  omega

theorem Quotation.length_le {chars : List Char} (h : Quotation chars source rest) :
    rest.length ≤ source.length := by
  induction h with
  | quote => exact Nat.le_succ _
  | plain _ _ _ _ ih => exact Nat.le_succ_of_le ih
  | escape _ _ ih => exact Nat.le_succ_of_le (Nat.le_succ_of_le ih)
  | unit unit _ _ ih => exact ih.trans unit.length_le
  | pair first _ second _ _ ih => exact ih.trans (second.length_le.trans first.length_le)

theorem Digits.length_le {found : List Char} (h : Digits found source rest) :
    rest.length ≤ source.length := by
  obtain ⟨-, -⟩ := h
  simp

theorem Fraction.length_le {places : Option (List Char)} (h : Fraction places source rest) :
    rest.length ≤ source.length := by
  cases h with
  | none => exact Nat.le_refl _
  | places digits => exact Nat.le_succ_of_le digits.length_le

theorem Exponent.length_le {power : Option Int} (h : Exponent power source rest) :
    rest.length ≤ source.length := by
  cases h with
  | none => exact Nat.le_refl _
  | plain _ digits => exact Nat.le_succ_of_le digits.length_le
  | plus _ digits | minus _ digits => exact Nat.le_succ_of_le (Nat.le_succ_of_le digits.length_le)

theorem Numeral.length_le {parts : Reader.NumberParts} (h : Numeral parts source rest) :
    rest.length ≤ source.length := by
  have bare {source : Source} (h : Unsigned parts source rest) : rest.length ≤ source.length := by
    obtain ⟨digits, -, fraction, exponent⟩ := h
    exact exponent.length_le.trans (fraction.length_le.trans digits.length_le)
  cases h with
  | positive _ unsigned => exact bare unsigned
  | negative _ unsigned => exact Nat.le_succ_of_le (bare unsigned)

theorem Spells.length_le {phrase : Phrase} (h : Spells phrase source rest) :
    rest.length ≤ source.length := by
  induction h with
  | null | yes | no => simp
  | number numeral => exact numeral.length_le
  | text quoted => exact Nat.le_succ_of_le quoted.length_le
  | emptyArray blank | emptyObject blank =>
      have closing := length_le_of_blank blank
      simp only [List.length_cons] at closing ⊢
      omega
  | array _ ih | object _ ih =>
      simp only [List.length_cons] at ih ⊢
      omega
  | padded before _ behind ih =>
      exact (length_le_of_blank behind).trans (ih.trans (length_le_of_blank before))
  | lastItem _ ih | lastMember _ ih => exact ih
  | item _ _ first others | members _ _ first others =>
      simp only [List.length_cons] at first
      omega
  | member before named colon _ ih =>
      have quote := length_le_of_blank before
      have name := named.length_le
      have mark := length_le_of_blank colon
      simp only [List.length_cons] at quote mark
      omega

/-! ### Where a value starts -/

/-- The characters with which values start. -/
def starts : List Char :=
  ['n', 't', 'f', '"', '[', '\x7b'] ++ '-' :: "0123456789".toList

theorem Numeral.exists_eq_cons {parts : Reader.NumberParts} (h : Numeral parts source rest) :
    ∃ c ∈ '-' :: "0123456789".toList, ∃ more, source = some c :: more := by
  cases h with
  | positive _ unsigned =>
      obtain ⟨whole, -, -, -⟩ := unsigned
      obtain ⟨c, more, rfl, is⟩ := whole.exists_eq_cons
      exact ⟨c, List.mem_cons_of_mem _ (isDigit_iff_mem.1 is), more, rfl⟩
  | negative => exact ⟨'-', List.mem_cons_self, _, rfl⟩

theorem exists_eq_cons_of_value {document : Json} (h : Spells (.value document) source rest) :
    ∃ c ∈ starts, ∃ more, source = some c :: more := by
  cases h with
  | null => exact ⟨'n', by decide, _, rfl⟩
  | yes => exact ⟨'t', by decide, _, rfl⟩
  | no => exact ⟨'f', by decide, _, rfl⟩
  | text => exact ⟨'"', by decide, _, rfl⟩
  | emptyArray | array => exact ⟨'[', by decide, _, rfl⟩
  | emptyObject | object => exact ⟨'\x7b', by decide, _, rfl⟩
  | number numeral _ =>
      obtain ⟨c, mem, starts⟩ := numeral.exists_eq_cons
      exact ⟨c, List.mem_append_right _ mem, starts⟩

theorem not_mem_spaces_of_mem_starts {c : Char} (mem : c ∈ starts) : c ∉ spaces := by
  have all : ∀ c ∈ starts, c ∉ spaces := by simp [starts, spaces]
  exact all c mem

theorem ne_bracket_of_mem_starts {c : Char} (mem : c ∈ starts) : c ≠ ']' := by
  have all : ∀ c ∈ starts, c ≠ ']' := by simp [starts]
  exact all c mem

/-! ### Steps of the reader -/

section Steps

open Reader (blank_skip items members next scalar skip_cons string value)

variable {fuel : Nat} {first closed : Bool} {lead stop : Source} {after : Option Source}
  {found : Outline}

/-- Where an item or a member of a list begins: the first one at once, the others behind a comma. -/
inductive Leads : (first : Bool) → (lead source : Source) → Prop
  | first {source : Source} : Leads true source source
  | later {lead source : Source} (blank : Blank lead (some ',' :: source)) : Leads false lead source

theorem skip_skip (source : Source) : skip (skip source) = skip source :=
  (skip_of_blank (blank_skip source)).symm

theorem value_skip (fuel : Nat) (source : Source) :
    value fuel (skip source) = value fuel source := by
  cases fuel with
  | zero => rfl
  | succ fuel => rw [value, value, skip_skip]

theorem value_of_blank (blank : Blank source rest) (fuel : Nat) :
    value fuel source = value fuel rest := by
  rw [← value_skip, skip_of_blank blank, value_skip]

theorem value_of_scalar {c : Char} {more : Source} (starts : skip source = some c :: more)
    (array : c ≠ '[') (object : c ≠ '\x7b')
    (scalar : scalar (some c :: more) = some (found, rest)) :
    value (fuel + 1) source = (found, some rest) := by
  rw [value, starts]
  simp [array, object, scalar]

theorem value_of_items {all : List Outline} (h : items fuel true source = (all, closed, after)) :
    value (fuel + 1) (some '[' :: source) = (.array all closed, after) := by
  rw [value, skip_cons (by rfl)]
  simp [h]

theorem value_of_members {all : List (Option String × Outline)}
    (h : members fuel true source = (all, closed, after)) :
    value (fuel + 1) (some '\x7b' :: source) = (.object all closed, after) := by
  rw [value, skip_cons (by rfl)]
  simp [h]

theorem items_of_end (blank : Blank source (some ']' :: rest)) :
    items (fuel + 1) first source = ([], true, some rest) := by
  rw [items, skip_of_blank_cons blank (by decide)]
  rfl

theorem members_of_end (blank : Blank source (some '\x7d' :: rest)) :
    members (fuel + 1) first source = ([], true, some rest) := by
  rw [members, skip_of_blank_cons blank (by decide)]
  rfl

/-- The reader finds where an item or a member begins, and takes it for no closing character. -/
theorem Leads.next_eq {c closing : Char} {more : Source} (h : Leads first lead source)
    (starts : skip source = some c :: more) (own : c ≠ closing) (comma : closing ≠ ',') :
    next closing first (skip lead) = some (skip source) ∧
      ∀ more, skip lead ≠ some closing :: more := by
  cases h with
  | first =>
      rw [starts]
      exact ⟨rfl, fun more eq => own (by cases eq; rfl)⟩
  | later blank =>
      rw [skip_of_blank_cons blank (by decide)]
      refine ⟨?_, fun more eq => comma (by cases eq; rfl)⟩
      simp [next, starts, own]

theorem items_of_item {c : Char} {more : Source} {others : List Outline}
    (h : Leads first lead source) (starts : skip source = some c :: more) (own : c ≠ ']')
    (item : value fuel source = (found, some stop))
    (behind : items fuel false stop = (others, closed, after)) :
    items (fuel + 1) first lead = (found :: others, closed, after) := by
  obtain ⟨begins, goesOn⟩ := h.next_eq starts own (by decide)
  rw [items]
  split
  · rename_i eq
    exact absurd eq (goesOn _)
  · rw [begins]
    simp [value_skip, item, behind]

theorem members_of_member {name : String} {quoted colon start : Source}
    {others : List (Option String × Outline)} (h : Leads first lead source)
    (starts : skip source = some '"' :: quoted) (named : string quoted = some (some name, colon))
    (marked : skip colon = some ':' :: start) (member : value fuel start = (found, some stop))
    (behind : members fuel false stop = (others, closed, after)) :
    members (fuel + 1) first lead = ((some name, found) :: others, closed, after) := by
  obtain ⟨begins, goesOn⟩ := h.next_eq starts (by decide : '"' ≠ '\x7d') (by decide)
  rw [members]
  split
  · rename_i eq
    exact absurd eq (goesOn _)
  · rw [begins, starts]
    simp [named, marked, member, behind]

end Steps

/-! ### Texts are read -/

/--
What the reader makes of a source that spells a phrase in front of a rest. It leaves white space
behind a value. A list takes one step more than twice its length, since its first item takes a step
before any character is read.
-/
def Phrase.Read : (phrase : Phrase) → (source rest : Source) → Prop
  | .value document, source, rest => EndsNumber rest → ∀ fuel, 2 * source.length < fuel →
      Reader.value fuel source = (.ofJson document, some rest)
  | .padded document, source, rest => EndsNumber rest → ∃ stop, Blank stop rest ∧
      ∀ fuel, 2 * source.length < fuel →
        Reader.value fuel source = (.ofJson document, some stop)
  | .items all, source, rest => ∀ after, rest = some ']' :: after →
      ∀ first lead, Leads first lead source → ∀ fuel, 2 * source.length + 1 < fuel →
        Reader.items fuel first lead = (Outline.ofItems all, true, some after)
  | .member name document, source, rest => EndsNumber rest →
      ∃ quoted colon start stop, skip source = some '"' :: quoted ∧
        Reader.string quoted = some (some name, colon) ∧ skip colon = some ':' :: start ∧
        Blank stop rest ∧ ∀ fuel, 2 * source.length < fuel →
          Reader.value fuel start = (.ofJson document, some stop)
  | .members all, source, rest => ∀ after, rest = some '\x7d' :: after →
      ∀ first lead, Leads first lead source → ∀ fuel, 2 * source.length + 1 < fuel →
        Reader.members fuel first lead = (Outline.ofMembers all, true, some after)

theorem value_of_numeral {parts : Reader.NumberParts} (h : Numeral parts source rest)
    (ends : EndsNumber rest) (fuel : Nat) :
    Reader.value (fuel + 1) source = (.number parts.number?, some rest) := by
  have read := h.numberParts_eq ends
  obtain ⟨c, mem, more, rfl⟩ := h.exists_eq_cons
  have space := not_mem_spaces_of_mem_starts (List.mem_append_right _ mem)
  have ne : c ≠ 'n' ∧ c ≠ 't' ∧ c ≠ 'f' ∧ c ≠ '"' ∧ c ≠ '[' ∧ c ≠ '\x7b' := by
    have all : ∀ c ∈ '-' :: "0123456789".toList,
        c ≠ 'n' ∧ c ≠ 't' ∧ c ≠ 'f' ∧ c ≠ '"' ∧ c ≠ '[' ∧ c ≠ '\x7b' := by simp
    exact all c mem
  refine value_of_scalar (skip_of_blank_cons .none space) ne.2.2.2.2.1 ne.2.2.2.2.2 ?_
  simp [Reader.scalar, ne, read]

theorem endsNumber_of_mem {c : Char} (mem : c ∈ [',', ']', '\x7d']) (rest : Source) :
    EndsNumber (some c :: rest) := by
  have all : ∀ c ∈ [',', ']', '\x7d'],
      ItemStore.Text.isDigit c = false ∧ c ≠ '.' ∧ c ≠ 'e' ∧ c ≠ 'E' := by
    simp [ItemStore.Text.isDigit]
  rintro _ _ ⟨⟩
  exact all c mem

theorem exists_skip_eq_cons {document : Json} (h : Spells (.padded document) source rest) :
    ∃ c ∈ starts, ∃ more, skip source = some c :: more := by
  cases h with
  | padded before value =>
      obtain ⟨c, mem, more, rfl⟩ := exists_eq_cons_of_value value
      exact ⟨c, mem, more, skip_of_blank_cons before (not_mem_spaces_of_mem_starts mem)⟩

/-- A source that spells a phrase is read as this phrase. -/
theorem Spells.read {phrase : Phrase} (h : Spells phrase source rest) :
    phrase.Read source rest := by
  induction h with
  | null | yes | no =>
      intro _ fuel enough
      obtain ⟨fuel, rfl⟩ := Nat.exists_eq_add_one_of_ne_zero (Nat.ne_zero_of_lt enough)
      exact value_of_scalar (Reader.skip_cons (by rfl) _) (by decide) (by decide) rfl
  | number numeral is =>
      intro ends fuel enough
      obtain ⟨fuel, rfl⟩ := Nat.exists_eq_add_one_of_ne_zero (Nat.ne_zero_of_lt enough)
      rw [value_of_numeral numeral ends, is]
      rfl
  | text quoted =>
      intro _ fuel enough
      obtain ⟨fuel, rfl⟩ := Nat.exists_eq_add_one_of_ne_zero (Nat.ne_zero_of_lt enough)
      refine value_of_scalar (Reader.skip_cons (by rfl) _) (by decide) (by decide) ?_
      rw [Reader.scalar, Reader.string_eq_some_iff.2 quoted]
      rfl
  | emptyArray blank =>
      intro _ fuel enough
      obtain ⟨fuel, rfl⟩ : ∃ less, fuel = less + 2 := ⟨fuel - 2, by simp at enough; omega⟩
      exact value_of_items (items_of_end blank)
  | array inner ih =>
      intro _ fuel enough
      obtain ⟨fuel, rfl⟩ : ∃ less, fuel = less + 1 := ⟨fuel - 1, by omega⟩
      exact value_of_items (ih _ rfl _ _ .first fuel (by simp at enough; omega))
  | emptyObject blank =>
      intro _ fuel enough
      obtain ⟨fuel, rfl⟩ : ∃ less, fuel = less + 2 := ⟨fuel - 2, by simp at enough; omega⟩
      exact value_of_members (members_of_end blank)
  | object inner ih =>
      intro _ fuel enough
      obtain ⟨fuel, rfl⟩ : ∃ less, fuel = less + 1 := ⟨fuel - 1, by omega⟩
      exact value_of_members (ih _ rfl _ _ .first fuel (by simp at enough; omega))
  | padded before value behind ih =>
      intro ends
      refine ⟨_, behind, fun fuel enough => ?_⟩
      have start := length_le_of_blank before
      rw [value_of_blank before]
      exact ih (ends.of_blank behind) fuel (by omega)
  | lastItem last ih =>
      rintro after rfl first lead leads fuel enough
      obtain ⟨fuel, rfl⟩ : ∃ less, fuel = less + 2 := ⟨fuel - 2, by omega⟩
      obtain ⟨stop, behind, read⟩ := ih (endsNumber_of_mem (by decide) _)
      obtain ⟨c, mem, more, starts⟩ := exists_skip_eq_cons last
      exact items_of_item leads starts (ne_bracket_of_mem_starts mem) (read _ (by omega))
        (items_of_end behind)
  | item first others ihFirst ihOthers =>
      rintro after rfl first' lead leads fuel enough
      obtain ⟨fuel, rfl⟩ : ∃ less, fuel = less + 1 := ⟨fuel - 1, by omega⟩
      obtain ⟨stop, comma, read⟩ := ihFirst (endsNumber_of_mem (by decide) _)
      obtain ⟨c, mem, more, starts⟩ := exists_skip_eq_cons first
      have shorter := first.length_le
      rw [List.length_cons] at shorter
      exact items_of_item leads starts (ne_bracket_of_mem_starts mem) (read _ (by omega))
        (ihOthers _ rfl _ _ (.later comma) fuel (by omega))
  | member before named colon value ih =>
      intro ends
      obtain ⟨stop, behind, read⟩ := ih ends
      refine ⟨_, _, _, stop, skip_of_blank_cons before (by decide),
        Reader.string_eq_some_iff.2 named, skip_of_blank_cons colon (by decide), behind,
        fun fuel enough => read fuel ?_⟩
      have quote := length_le_of_blank before
      have mark := length_le_of_blank colon
      have name := named.length_le
      simp only [List.length_cons] at quote mark
      omega
  | lastMember last ih =>
      rintro after rfl first lead leads fuel enough
      obtain ⟨fuel, rfl⟩ : ∃ less, fuel = less + 2 := ⟨fuel - 2, by omega⟩
      obtain ⟨quoted, colon, start, stop, starts, named, marked, behind, read⟩ :=
        ih (endsNumber_of_mem (by decide) _)
      exact members_of_member leads starts named marked (read _ (by omega)) (members_of_end behind)
  | members first others ihFirst ihOthers =>
      rintro after rfl first' lead leads fuel enough
      obtain ⟨fuel, rfl⟩ : ∃ less, fuel = less + 1 := ⟨fuel - 1, by omega⟩
      obtain ⟨quoted, colon, start, stop, starts, named, marked, comma, read⟩ :=
        ihFirst (endsNumber_of_mem (by decide) _)
      have shorter := first.length_le
      rw [List.length_cons] at shorter
      exact members_of_member leads starts named marked (read _ (by omega))
        (ihOthers _ rfl _ _ (.later comma) fuel (by omega))

/-! ### What is read is a text -/

section Inversion

open Reader (blank_skip items members next scalar string value)

variable {fuel : Nat} {first : Bool} {lead start after : Source} {found : Outline}

theorem exists_leads_of_next {closing : Char} (h : next closing first (skip lead) = some start) :
    ∃ source, Leads first lead source ∧ Blank source start := by
  cases first with
  | true =>
      cases h
      exact ⟨lead, .first, blank_skip lead⟩
  | false =>
      unfold next at h
      rw [if_neg Bool.false_ne_true] at h
      split at h
      · rename_i more eq
        have comma : Blank lead (some ',' :: more) := eq ▸ blank_skip lead
        split at h
        · split at h
          · cases h
          · rename_i is _
            cases h
            exact ⟨more, .later comma, is ▸ blank_skip more⟩
        · cases h
          exact ⟨more, .later comma, blank_skip more⟩
      · cases h

theorem value_inv (h : value (fuel + 1) source = (found, some rest)) :
    (∃ more all closed, skip source = some '[' :: more ∧
        items fuel true more = (all, closed, some rest) ∧ found = .array all closed) ∨
      (∃ more all closed, skip source = some '\x7b' :: more ∧
        members fuel true more = (all, closed, some rest) ∧ found = .object all closed) ∨
      scalar (skip source) = some (found, rest) := by
  rw [value] at h
  split at h
  · rename_i more starts
    obtain ⟨rfl, is⟩ := Prod.mk.inj h
    exact .inl ⟨more, _, _, starts, by rw [← is], rfl⟩
  · rename_i more starts
    obtain ⟨rfl, is⟩ := Prod.mk.inj h
    exact .inr (.inl ⟨more, _, _, starts, by rw [← is], rfl⟩)
  · split at h
    · rename_i is
      cases h
      exact .inr (.inr is)
    · cases h

theorem items_inv {all : List Outline} (h : items (fuel + 1) first lead = (all, true, some after)) :
    all = [] ∧ Blank lead (some ']' :: after) ∨
      ∃ source item stop others, Leads first lead source ∧ value fuel source = (item, some stop) ∧
        items fuel false stop = (others, true, some after) ∧ all = item :: others := by
  rw [items] at h
  split at h
  · rename_i eq
    cases h
    exact .inl ⟨rfl, eq ▸ blank_skip lead⟩
  · split at h
    · cases h
    · rename_i begins
      obtain ⟨source, leads, blank⟩ := exists_leads_of_next begins
      split at h
      · cases h
      · rename_i item stop read
        obtain ⟨rfl, is⟩ := Prod.mk.inj h
        refine .inr ⟨source, item, stop, _, leads, ?_, by rw [← is], rfl⟩
        rw [value_of_blank blank, read]

theorem members_inv {all : List (Option String × Outline)}
    (h : members (fuel + 1) first lead = (all, true, some after)) :
    all = [] ∧ Blank lead (some '\x7d' :: after) ∨
      ∃ source quoted name colon start found stop others, Leads first lead source ∧
        Blank source (some '"' :: quoted) ∧ string quoted = some (name, colon) ∧
        Blank colon (some ':' :: start) ∧ value fuel start = (found, some stop) ∧
        members fuel false stop = (others, true, some after) ∧ all = (name, found) :: others := by
  rw [members] at h
  split at h
  · rename_i eq
    cases h
    exact .inl ⟨rfl, eq ▸ blank_skip lead⟩
  · split at h
    · cases h
    · rename_i quoted begins
      obtain ⟨source, leads, blank⟩ := exists_leads_of_next begins
      split at h
      · cases h
      · rename_i name colon named
        split at h
        · rename_i start marked
          split at h
          · cases h
          · rename_i found stop read
            obtain ⟨rfl, is⟩ := Prod.mk.inj h
            exact .inr ⟨source, quoted, name, colon, start, found, stop, _, leads, blank, named,
              marked ▸ blank_skip colon, read, by rw [← is], rfl⟩
        · cases h
    · cases h

end Inversion

theorem spells_of_scalar {document : Json}
    (h : Reader.scalar source = some (.ofJson document, rest)) :
    Spells (.value document) source rest := by
  unfold Reader.scalar at h
  split at h
  · cases document <;> cases h
    exact .null
  · cases document <;> cases h
    exact .yes
  · cases document <;> cases h
    exact .no
  · obtain ⟨⟨s, behind⟩, read, same⟩ := Option.map_eq_some_iff.1 h
    cases document <;> cases same
    exact .text (Reader.string_eq_some_iff.1 read)
  · obtain ⟨⟨parts, behind⟩, read, same⟩ := Option.map_eq_some_iff.1 h
    obtain ⟨is, rfl⟩ := Prod.mk.inj same
    cases document <;> simp only [Outline.ofJson, Outline.number.injEq, reduceCtorEq] at is
    exact .number (Numeral.of_eq read) is

/-- Whether everything that is found with some fuel is spelled there. -/
structure Sound (fuel : Nat) : Prop where
  value {document : Json} {source rest : Source}
    (h : Reader.value fuel source = (.ofJson document, some rest)) :
    ∃ start, Blank source start ∧ Spells (.value document) start rest
  items {all : List Json} {first : Bool} {lead after : Source}
    (h : Reader.items fuel first lead = (Outline.ofItems all, true, some after)) :
    all = [] ∧ Blank lead (some ']' :: after) ∨
      ∃ source, Leads first lead source ∧ Spells (.items all) source (some ']' :: after)
  members {all : List (String × Json)} {first : Bool} {lead after : Source}
    (h : Reader.members fuel first lead = (Outline.ofMembers all, true, some after)) :
    all = [] ∧ Blank lead (some '\x7d' :: after) ∨
      ∃ source, Leads first lead source ∧ Spells (.members all) source (some '\x7d' :: after)

section Step

variable {fuel : Nat} (ih : Sound fuel)

include ih

theorem exists_spells_of_value {document : Json}
    (h : Reader.value (fuel + 1) source = (.ofJson document, some rest)) :
    ∃ start, Blank source start ∧ Spells (.value document) start rest := by
  refine ⟨skip source, Reader.blank_skip source, ?_⟩
  obtain ⟨more, all, closed, starts, inner, same⟩ | ⟨more, all, closed, starts, inner, same⟩ |
    scalar := value_inv h
  · cases document <;> cases same
    rw [starts]
    obtain ⟨rfl, blank⟩ | ⟨_, ⟨⟩, spelled⟩ := ih.items inner
    · exact .emptyArray blank
    · exact .array spelled
  · cases document <;> cases same
    rw [starts]
    obtain ⟨rfl, blank⟩ | ⟨_, ⟨⟩, spelled⟩ := ih.members inner
    · exact .emptyObject blank
    · exact .object spelled
  · exact spells_of_scalar scalar

theorem spells_items_of_items {all : List Json} {first : Bool} {lead after : Source}
    (h : Reader.items (fuel + 1) first lead = (Outline.ofItems all, true, some after)) :
    all = [] ∧ Blank lead (some ']' :: after) ∨
      ∃ source, Leads first lead source ∧ Spells (.items all) source (some ']' :: after) := by
  obtain ⟨same, blank⟩ | ⟨source, item, stop, others, leads, read, behind, same⟩ := items_inv h
  · cases all <;> cases same
    exact .inl ⟨rfl, blank⟩
  · cases all <;> cases same
    obtain ⟨start, before, value⟩ := ih.value read
    refine .inr ⟨source, leads, ?_⟩
    obtain ⟨rfl, blank⟩ | ⟨next, comma | comma, spelled⟩ := ih.items behind
    · exact .lastItem (.padded before value blank)
    · exact .item (.padded before value comma) spelled

theorem spells_members_of_members {all : List (String × Json)} {first : Bool} {lead after : Source}
    (h : Reader.members (fuel + 1) first lead = (Outline.ofMembers all, true, some after)) :
    all = [] ∧ Blank lead (some '\x7d' :: after) ∨
      ∃ source, Leads first lead source ∧
        Spells (.members all) source (some '\x7d' :: after) := by
  obtain ⟨same, blank⟩ | ⟨source, quoted, name, colon, start, found, stop, others, leads, quote,
    named, marked, read, behind, same⟩ := members_inv h
  · cases all <;> cases same
    exact .inl ⟨rfl, blank⟩
  · cases all <;> cases same
    obtain ⟨inside, before, value⟩ := ih.value read
    refine .inr ⟨source, leads, ?_⟩
    have member {rest : Source} (blank : Blank stop rest) :=
      Spells.member quote (Reader.string_eq_some_iff.1 named) marked (.padded before value blank)
    obtain ⟨rfl, blank⟩ | ⟨next, comma | comma, spelled⟩ := ih.members behind
    · exact .lastMember (member blank)
    · exact .members (member comma) spelled

end Step

/-- Everything that is found is spelled there. -/
theorem sound (fuel : Nat) : Sound fuel := by
  induction fuel with
  | zero =>
      refine ⟨fun {document} _ _ h => ?_, fun h => ?_, fun h => ?_⟩
      · cases document <;> cases h
      · simp [Reader.items] at h
      · simp [Reader.members] at h
  | succ fuel ih =>
      exact ⟨exists_spells_of_value ih, spells_items_of_items ih, spells_members_of_members ih⟩

/-! ### Outlines of documents -/

namespace Outline

mutual

/-- A document has an outline of its own. -/
theorem ofJson_injective : (a b : Json) → ofJson a = ofJson b → a = b
  | .null, b, same => by cases b <;> simp [ofJson] at same ⊢
  | .bool _, b, same => by cases b <;> simp_all [ofJson]
  | .number _, b, same => by cases b <;> simp_all [ofJson]
  | .text _, b, same => by cases b <;> simp_all [ofJson]
  | .array items, b, same => by
      cases b with
      | array others =>
          simp only [ofJson, Outline.array.injEq, and_true] at same
          rw [ofItems_injective items others same]
      | _ => simp [ofJson] at same
  | .object members, b, same => by
      cases b with
      | object others =>
          simp only [ofJson, Outline.object.injEq, and_true] at same
          rw [ofMembers_injective members others same]
      | _ => simp [ofJson] at same

theorem ofItems_injective : (items others : List Json) → ofItems items = ofItems others →
    items = others
  | [], others, same => by cases others <;> simp [ofItems] at same ⊢
  | item :: rest, others, same => by
      cases others with
      | nil => simp [ofItems] at same
      | cons other more =>
          simp only [ofItems, List.cons.injEq] at same
          rw [ofJson_injective item other same.1, ofItems_injective rest more same.2]

theorem ofMembers_injective : (members others : List (String × Json)) →
    ofMembers members = ofMembers others → members = others
  | [], others, same => by cases others <;> simp [ofMembers] at same ⊢
  | (name, value) :: rest, others, same => by
      cases others with
      | nil => simp [ofMembers] at same
      | cons other more =>
          obtain ⟨otherName, otherValue⟩ := other
          simp only [ofMembers, List.cons.injEq, Prod.mk.injEq, Option.some.injEq] at same
          rw [same.1.1, ofJson_injective value otherValue same.1.2,
            ofMembers_injective rest more same.2]

end

end Outline

/-! ### Texts of documents -/

/-- The texts of a document are what is read as its outline, with nothing behind it. -/
theorem isTextOf_iff_read {document : Json} :
    IsTextOf source document ↔ Outline.read source = ⟨.ofJson document, true⟩ := by
  constructor
  · intro text
    obtain ⟨stop, blank, read⟩ := text.read endsNumber_nil
    rw [Outline.read, read _ (by omega)]
    simp only [skip_of_blank blank]
    rfl
  · intro h
    unfold Outline.read at h
    split at h
    · cases h
    · rename_i found rest read
      obtain ⟨rfl, ended⟩ := Outline.Text.mk.inj h
      obtain ⟨start, before, value⟩ := (sound _).value read
      have behind : Blank rest [] := List.isEmpty_iff.1 ended ▸ Reader.blank_skip rest
      exact .padded before value behind

example : IsTextOf (.ofString " \x7b \"\\u0053\" : [ null ,\t\"\\n\" ] \x7d\n")
    (.object [("S", .array [.null, .text "\n"])]) :=
  isTextOf_iff_read.2 (by cbv)

/-- A text is that of one document at most. -/
theorem IsTextOf.unique {a b : Json} (ha : IsTextOf source a) (hb : IsTextOf source b) : a = b := by
  have same := (isTextOf_iff_read.1 ha).symm.trans (isTextOf_iff_read.1 hb)
  exact Outline.ofJson_injective a b (congrArg Outline.Text.outline same)

end ItemStore.Json
