import Mathlib
import ItemStore.Json.Reader
import ItemStore.Proofs.Decimal.Digits

/-!
# ItemStore.Proofs.Json.Grammar

The texts of documents, by the grammar of RFC 8259, and the reader's way with strings and numbers.

Design points:

* A relation of the grammar holds between a source, what it spells in front, and the rest of it. So
  a production passes on the rest of its first part to the next one, and nothing is taken apart.
* White space, escapes and digits are given by the characters themselves.
* A string that spells no characters and a number beyond all numbers have no production: their texts
  are read, but are no texts of a document.
* A number could end in front of a further digit of it. So what is shown of a reader of numbers
  takes a rest that does not go on with one (`EndsNumber`), as it is behind all values of a text.
-/

namespace ItemStore.Json

open ItemStore.Text (AreDigits Source decimalValue isDigit isDigit_iff)

/-! ### The grammar -/

/-- The characters of white space. -/
def spaces : List Char := [' ', '\t', '\n', '\r']

/-- White space in front of a rest, or none. -/
inductive Blank : (source rest : Source) → Prop
  | none {rest : Source} : Blank rest rest
  | space {c : Char} {source rest : Source} (space : c ∈ spaces) (more : Blank source rest) :
      Blank (some c :: source) rest

/-- The letters that stand for a character behind a backslash, with this character. -/
def escapes : List (Char × Char) :=
  [('"', '"'), ('\\', '\\'), ('/', '/'), ('b', '\x08'), ('f', '\x0c'), ('n', '\n'), ('r', '\r'),
    ('t', '\t')]

/-- The hexadecimal digits, with the numbers that they stand for. -/
def hexDigits : List (Char × Nat) :=
  "0123456789abcdef".toList.zipIdx ++ "0123456789ABCDEF".toList.zipIdx

/-- An escape by the number of a unit of UTF-16, in four hexadecimal digits. -/
inductive UnitEscape : (n : Nat) → (source rest : Source) → Prop
  | digits {a b c d : Char} {i j k l : Nat} {rest : Source} (first : (a, i) ∈ hexDigits)
      (second : (b, j) ∈ hexDigits) (third : (c, k) ∈ hexDigits) (fourth : (d, l) ∈ hexDigits) :
      UnitEscape (4096 * i + 256 * j + 16 * k + l)
        (some '\\' :: some 'u' :: some a :: some b :: some c :: some d :: rest) rest

/-- The characters of a string, and its closing quote. -/
inductive Quotation : (chars : List Char) → (source rest : Source) → Prop
  | quote {rest : Source} : Quotation [] (some '"' :: rest) rest
  | plain {c : Char} {chars : List Char} {source rest : Source} (graphic : 0x20 ≤ c.toNat)
      (notQuote : c ≠ '"') (notBackslash : c ≠ '\\') (more : Quotation chars source rest) :
      Quotation (c :: chars) (some c :: source) rest
  | escape {letter c : Char} {chars : List Char} {source rest : Source}
      (known : (letter, c) ∈ escapes) (more : Quotation chars source rest) :
      Quotation (c :: chars) (some '\\' :: some letter :: source) rest
  | unit {n : Nat} {chars : List Char} {source behind rest : Source}
      (unit : UnitEscape n source behind) (single : n < 0xD800 ∨ 0xE000 ≤ n)
      (more : Quotation chars behind rest) : Quotation (Char.ofNat n :: chars) source rest
  | pair {n m : Nat} {chars : List Char} {source middle behind rest : Source}
      (first : UnitEscape n source middle) (high : 0xD800 ≤ n ∧ n < 0xDC00)
      (second : UnitEscape m middle behind) (low : 0xDC00 ≤ m ∧ m < 0xE000)
      (more : Quotation chars behind rest) :
      Quotation (Char.ofNat (0x10000 + (n - 0xD800) * 0x400 + (m - 0xDC00)) :: chars) source rest

/-- Decimal digits, one at least. -/
inductive Digits : (found : List Char) → (source rest : Source) → Prop
  | run {found : List Char} {rest : Source} (filled : found ≠ [])
      (all : ∀ c ∈ found, c ∈ "0123456789".toList) : Digits found (found.map some ++ rest) rest

/-- A point with digits, or nothing. -/
inductive Fraction : (places : Option (List Char)) → (source rest : Source) → Prop
  | none {rest : Source} : Fraction none rest rest
  | places {found : List Char} {source rest : Source} (digits : Digits found source rest) :
      Fraction (some found) (some '.' :: source) rest

/-- An exponent, or nothing. -/
inductive Exponent : (power : Option Int) → (source rest : Source) → Prop
  | none {rest : Source} : Exponent none rest rest
  | plain {e : Char} {found : List Char} {source rest : Source} (mark : e = 'e' ∨ e = 'E')
      (digits : Digits found source rest) :
      Exponent (some (decimalValue found)) (some e :: source) rest
  | plus {e : Char} {found : List Char} {source rest : Source} (mark : e = 'e' ∨ e = 'E')
      (digits : Digits found source rest) :
      Exponent (some (decimalValue found)) (some e :: some '+' :: source) rest
  | minus {e : Char} {found : List Char} {source rest : Source} (mark : e = 'e' ∨ e = 'E')
      (digits : Digits found source rest) :
      Exponent (some (-decimalValue found)) (some e :: some '-' :: source) rest

/-- A number without its sign. No zero stands in front of other digits. -/
inductive Unsigned : (parts : Reader.NumberParts) → (source rest : Source) → Prop
  | parts {negative : Bool} {whole : List Char} {places : Option (List Char)} {power : Option Int}
      {source point mark rest : Source} (digits : Digits whole source point)
      (leading : ∀ c more, whole ≠ '0' :: c :: more) (fraction : Fraction places point mark)
      (exponent : Exponent power mark rest) :
      Unsigned ⟨negative, whole, places, power⟩ source rest

/-- A number. -/
inductive Numeral : (parts : Reader.NumberParts) → (source rest : Source) → Prop
  | positive {parts : Reader.NumberParts} {source rest : Source} (sign : parts.negative = false)
      (unsigned : Unsigned parts source rest) : Numeral parts source rest
  | negative {parts : Reader.NumberParts} {source rest : Source} (sign : parts.negative = true)
      (unsigned : Unsigned parts source rest) : Numeral parts (some '-' :: source) rest

/-- What parts of a text may stand for. -/
inductive Phrase
  /-- A document. -/
  | value (document : Json)
  /-- A document, perhaps with white space around it. -/
  | padded (document : Json)
  /-- The items of an array, one at least. -/
  | items (items : List Json)
  /-- A member of an object. -/
  | member (name : String) (document : Json)
  /-- The members of an object, one at least. -/
  | members (members : List (String × Json))

/-- Whether a source spells a phrase in front of a rest. -/
inductive Spells : (phrase : Phrase) → (source rest : Source) → Prop
  | null {rest : Source} : Spells (.value .null) (.ofString "null" ++ rest) rest
  | yes {rest : Source} : Spells (.value (.bool true)) (.ofString "true" ++ rest) rest
  | no {rest : Source} : Spells (.value (.bool false)) (.ofString "false" ++ rest) rest
  | number {parts : Reader.NumberParts} {n : Number} {source rest : Source}
      (numeral : Numeral parts source rest) (is : parts.number? = some n) :
      Spells (.value (.number n)) source rest
  | text {s : String} {source rest : Source} (quoted : Quotation s.toList source rest) :
      Spells (.value (.text s)) (some '"' :: source) rest
  | emptyArray {source rest : Source} (blank : Blank source (some ']' :: rest)) :
      Spells (.value (.array [])) (some '[' :: source) rest
  | array {items : List Json} {source rest : Source}
      (inner : Spells (.items items) source (some ']' :: rest)) :
      Spells (.value (.array items)) (some '[' :: source) rest
  | emptyObject {source rest : Source} (blank : Blank source (some '\x7d' :: rest)) :
      Spells (.value (.object [])) (some '\x7b' :: source) rest
  | object {members : List (String × Json)} {source rest : Source}
      (inner : Spells (.members members) source (some '\x7d' :: rest)) :
      Spells (.value (.object members)) (some '\x7b' :: source) rest
  | padded {document : Json} {source start stop rest : Source} (before : Blank source start)
      (value : Spells (.value document) start stop) (behind : Blank stop rest) :
      Spells (.padded document) source rest
  | lastItem {item : Json} {source rest : Source} (last : Spells (.padded item) source rest) :
      Spells (.items [item]) source rest
  | item {item : Json} {items : List Json} {source next rest : Source}
      (first : Spells (.padded item) source (some ',' :: next))
      (others : Spells (.items items) next rest) : Spells (.items (item :: items)) source rest
  | member {name : String} {document : Json} {source quoted behind next rest : Source}
      (before : Blank source (some '"' :: quoted)) (named : Quotation name.toList quoted behind)
      (colon : Blank behind (some ':' :: next)) (value : Spells (.padded document) next rest) :
      Spells (.member name document) source rest
  | lastMember {name : String} {document : Json} {source rest : Source}
      (last : Spells (.member name document) source rest) :
      Spells (.members [(name, document)]) source rest
  | members {name : String} {document : Json} {members : List (String × Json)}
      {source next rest : Source} (first : Spells (.member name document) source (some ',' :: next))
      (others : Spells (.members members) next rest) :
      Spells (.members ((name, document) :: members)) source rest

/--
A text is that of a document: it spells the document, and nothing but white space around it. A text
in which a string spells no characters, or a number is beyond all numbers, is that of no document.
-/
def IsTextOf (source : Source) (document : Json) : Prop := Spells (.padded document) source []

namespace Reader

variable {source rest : Source}

/-! ### White space -/

theorem isSpace_eq_true_iff {c : Option Char} :
    isSpace c = true ↔ ∃ space ∈ spaces, c = some space := by
  simp [isSpace, spaces, or_assoc]

theorem blank_skip (source : Source) : Blank source (skip source) := by
  induction source with
  | nil => exact .none
  | cons c rest ih =>
      by_cases space : isSpace c = true
      · obtain ⟨char, mem, rfl⟩ := isSpace_eq_true_iff.1 space
        have more : skip (some char :: rest) = skip rest := List.dropWhile_cons_of_pos space
        rw [more]
        exact .space mem ih
      · rw [skip, List.dropWhile_cons_of_neg space]
        exact .none

theorem skip_of_blank (blank : Blank source rest) : skip source = skip rest := by
  induction blank with
  | none => rfl
  | space mem _ ih =>
      rw [← ih, skip, List.dropWhile_cons_of_pos (isSpace_eq_true_iff.2 ⟨_, mem, rfl⟩)]
      rfl

theorem skip_cons {c : Option Char} (h : isSpace c = false) (rest : Source) :
    skip (c :: rest) = c :: rest := by
  rw [skip, List.dropWhile_cons_of_neg]
  simp [h]

theorem skip_of_blank_cons {c : Char} (blank : Blank source (some c :: rest)) (ne : c ∉ spaces) :
    skip source = some c :: rest := by
  rw [skip_of_blank blank, skip_cons]
  rw [← Bool.not_eq_true, isSpace_eq_true_iff]
  rintro ⟨space, mem, same⟩
  cases same
  exact ne mem

theorem length_le_of_blank (blank : Blank source rest) : rest.length ≤ source.length := by
  induction blank with
  | none => exact Nat.le_refl _
  | space _ _ ih => exact Nat.le_succ_of_le ih

/-! ### Strings -/

theorem hexValue?_eq_some_iff {c : Char} {n : Nat} :
    hexValue? c = some n ↔ (c, n) ∈ hexDigits := by
  constructor
  · intro h
    have small : c.toNat < 103 := by
      have letter (least last : Char) :
          (least ≤ c && c ≤ last) = true ↔ least.toNat ≤ c.toNat ∧ c.toNat ≤ last.toNat := by
        simp only [Bool.and_eq_true, decide_eq_true_eq]
        rfl
      unfold hexValue? Text.isDigit at h
      simp only [letter] at h
      have codes : '9'.toNat = 57 ∧ 'f'.toNat = 102 ∧ 'F'.toNat = 70 := by decide
      split at h
      · omega
      · split at h
        · omega
        · split at h
          · omega
          · cases h
    have all : ∀ k < 103, ∀ n ∈ hexValue? (Char.ofNat k), (Char.ofNat k, n) ∈ hexDigits := by
      decide +kernel
    have own := all c.toNat small n
    rw [Char.ofNat_toNat] at own
    exact own h
  · have all : ∀ digit ∈ hexDigits, hexValue? digit.1 = some digit.2 := by decide +kernel
    exact all (c, n)

theorem hexNumber?_eq_some_iff {a b c d : Char} {n : Nat} :
    hexNumber? a b c d = some n ↔ ∃ i j k l, (a, i) ∈ hexDigits ∧ (b, j) ∈ hexDigits ∧
      (c, k) ∈ hexDigits ∧ (d, l) ∈ hexDigits ∧ n = 4096 * i + 256 * j + 16 * k + l := by
  simp only [hexNumber?, Option.bind_eq_bind, Option.bind_eq_some_iff, hexValue?_eq_some_iff,
    Option.pure_def, Option.some.injEq, @eq_comm _ n]
  constructor
  · rintro ⟨i, first, j, second, k, third, l, fourth, is⟩
    exact ⟨i, j, k, l, first, second, third, fourth, is⟩
  · rintro ⟨i, j, k, l, first, second, third, fourth, is⟩
    exact ⟨i, first, j, second, k, third, l, fourth, is⟩

theorem escape?_eq_some_iff {letter c : Char} :
    escape? letter = some c ↔ (letter, c) ∈ escapes := by
  constructor
  · intro h
    unfold escape? at h
    split at h <;> cases h <;> decide
  · have all : ∀ escape ∈ escapes, escape? escape.1 = some escape.2 := by decide
    exact all (letter, c)

/-- Whether a source has a piece of a string in front of a rest. -/
def Piece.Begins (source rest : Source) : Piece → Prop
  | .char c =>
      (0x20 ≤ c.toNat ∧ c ≠ '"' ∧ c ≠ '\\' ∧ source = some c :: rest) ∨
        ∃ letter, (letter, c) ∈ escapes ∧ source = some '\\' :: some letter :: rest
  | .unit n => UnitEscape n source rest
  | .gap => source = none :: rest

/-- A piece in front of others is found, and they are. -/
theorem pieces_of_begins {piece : Piece} {behind : Source} (h : piece.Begins source behind) :
    pieces source = (pieces behind).map fun (more, after) => (piece :: more, after) := by
  cases piece with
  | char c =>
      rcases h with ⟨graphic, notQuote, notBackslash, rfl⟩ | ⟨letter, known, rfl⟩
      · simp [pieces, notBackslash, Nat.not_lt.2 graphic]
      · have ne : letter ≠ 'u' := by
          rintro rfl
          exact absurd (escape?_eq_some_iff.2 known) nofun
        rw [pieces, escape?_eq_some_iff.2 known]
        exact fun _ _ _ _ _ _ eq => ne eq
  | unit n =>
      obtain ⟨first, second, third, fourth⟩ := h
      have number := hexNumber?_eq_some_iff.2 ⟨_, _, _, _, first, second, third, fourth, rfl⟩
      rw [pieces, number]
  | gap =>
      obtain rfl := h
      rw [pieces]

/-- What is found is nothing, up to the closing quote, or a piece in front of others. -/
theorem pieces_inv {found : List Piece} (h : pieces source = some (found, rest)) :
    found = [] ∧ source = some '"' :: rest ∨ ∃ piece more behind, found = piece :: more ∧
      piece.Begins source behind ∧ pieces behind = some (more, rest) := by
  unfold pieces at h
  split at h
  · cases h
  · cases h
    exact .inl ⟨rfl, rfl⟩
  · split at h
    · cases h
    · rename_i number
      obtain ⟨⟨more, _⟩, read, same⟩ := Option.map_eq_some_iff.1 h
      cases same
      obtain ⟨i, j, k, l, first, second, third, fourth, rfl⟩ := hexNumber?_eq_some_iff.1 number
      exact .inr ⟨_, more, _, rfl, .digits first second third fourth, read⟩
  · split at h
    · cases h
    · rename_i known
      obtain ⟨⟨more, _⟩, read, same⟩ := Option.map_eq_some_iff.1 h
      cases same
      exact .inr ⟨_, more, _, rfl, .inr ⟨_, escape?_eq_some_iff.1 known, rfl⟩, read⟩
  · cases h
  · split at h
    · cases h
    · rename_i notQuote _ _ notBackslash graphic
      obtain ⟨⟨more, _⟩, read, same⟩ := Option.map_eq_some_iff.1 h
      cases same
      exact .inr ⟨_, more, _, rfl, .inl ⟨Nat.not_lt.1 graphic, notQuote, notBackslash, rfl⟩, read⟩
  · obtain ⟨⟨more, _⟩, read, same⟩ := Option.map_eq_some_iff.1 h
    cases same
    exact .inr ⟨.gap, more, _, rfl, rfl, read⟩

theorem eq_of_pieces_nil (h : pieces source = some ([], rest)) : source = some '"' :: rest := by
  obtain ⟨-, eq⟩ | ⟨_, _, _, ⟨⟩, -⟩ := pieces_inv h
  exact eq

theorem begins_of_pieces {piece : Piece} {more : List Piece}
    (h : pieces source = some (piece :: more, rest)) :
    ∃ behind, piece.Begins source behind ∧ pieces behind = some (more, rest) := by
  obtain ⟨⟨⟩, -⟩ | ⟨_, _, behind, ⟨⟩, begins, read⟩ := pieces_inv h
  exact ⟨behind, begins, read⟩

/-- A unit that is no surrogate spells a character on its own. -/
theorem spell_unit {n : Nat} (single : n < 0xD800 ∨ 0xE000 ≤ n) (rest : List Piece) :
    spell (.unit n :: rest) = (spell rest).map (Char.ofNat n :: ·) := by
  have high : isHighSurrogate n = false := by simp [isHighSurrogate]; omega
  have low : isLowSurrogate n = false := by simp [isLowSurrogate]; omega
  cases rest with
  | nil => simp [spell, high, low]
  | cons next more => cases next <;> simp [spell, high, low]

theorem spell_pair {n m : Nat} (high : 0xD800 ≤ n ∧ n < 0xDC00) (low : 0xDC00 ≤ m ∧ m < 0xE000)
    (rest : List Piece) : spell (.unit n :: .unit m :: rest) =
      (spell rest).map (Char.ofNat (0x10000 + (n - 0xD800) * 0x400 + (m - 0xDC00)) :: ·) := by
  simp [spell, isHighSurrogate, isLowSurrogate, high, low]

/-- The characters of a string of the grammar are found in pieces. -/
theorem exists_pieces {chars : List Char} (h : Quotation chars source rest) :
    ∃ found, pieces source = some (found, rest) ∧ spell found = some chars := by
  induction h with
  | quote => exact ⟨[], by simp [pieces], rfl⟩
  | @plain c _ source _ graphic notQuote notBackslash _ ih =>
      obtain ⟨found, read, spelled⟩ := ih
      have first : (Piece.char c).Begins (some c :: source) source :=
        .inl ⟨graphic, notQuote, notBackslash, rfl⟩
      exact ⟨.char c :: found, by rw [pieces_of_begins first, read]; rfl, by simp [spell, spelled]⟩
  | @escape letter c _ source _ known _ ih =>
      obtain ⟨found, read, spelled⟩ := ih
      have first : (Piece.char c).Begins (some '\\' :: some letter :: source) source :=
        .inr ⟨letter, known, rfl⟩
      exact ⟨.char c :: found, by rw [pieces_of_begins first, read]; rfl, by simp [spell, spelled]⟩
  | @unit n _ source behind _ unit single _ ih =>
      obtain ⟨found, read, spelled⟩ := ih
      have first : (Piece.unit n).Begins source behind := unit
      refine ⟨.unit n :: found, by rw [pieces_of_begins first, read]; rfl, ?_⟩
      rw [spell_unit single, spelled]
      rfl
  | @pair n m _ source middle behind _ unit high other low _ ih =>
      obtain ⟨found, read, spelled⟩ := ih
      have first : (Piece.unit n).Begins source middle := unit
      have second : (Piece.unit m).Begins middle behind := other
      refine ⟨.unit n :: .unit m :: found, ?_, ?_⟩
      · rw [pieces_of_begins first, pieces_of_begins second, read]
        rfl
      · rw [spell_pair high low, spelled]
        rfl

/-- Pieces that spell characters make up a string of the grammar, one or two of them at a time. -/
theorem quotation_of_pieces {found : List Piece} {chars : List Char}
    (read : pieces source = some (found, rest)) (spelled : spell found = some chars) :
    Quotation chars source rest := by
  have single {n : Nat} (not : ¬(isHighSurrogate n || isLowSurrogate n) = true) :
      n < 0xD800 ∨ 0xE000 ≤ n := by
    simp only [isHighSurrogate, isLowSurrogate, Bool.or_eq_true, Bool.and_eq_true,
      decide_eq_true_eq] at not
    omega
  fun_induction spell found generalizing source chars with
  | case1 =>
      cases spelled
      rw [eq_of_pieces_nil read]
      exact .quote
  | case2 c rest ih =>
      obtain ⟨more, spelledMore, rfl⟩ := Option.map_eq_some_iff.1 spelled
      obtain ⟨behind, ⟨graphic, notQuote, notBackslash, rfl⟩ | ⟨letter, known, rfl⟩, others⟩ :=
        begins_of_pieces read
      · exact .plain graphic notQuote notBackslash (ih others spelledMore)
      · exact .escape known (ih others spelledMore)
  | case3 => cases spelled
  | case4 n m rest both ih =>
      obtain ⟨more, spelledMore, rfl⟩ := Option.map_eq_some_iff.1 spelled
      obtain ⟨middle, first, others⟩ := begins_of_pieces read
      obtain ⟨behind, second, others⟩ := begins_of_pieces others
      simp only [isHighSurrogate, isLowSurrogate, Bool.and_eq_true, decide_eq_true_eq] at both
      exact .pair first both.1 second both.2 (ih others spelledMore)
  | case5 => cases spelled
  | case6 n m rest _ not ih =>
      obtain ⟨more, spelledMore, rfl⟩ := Option.map_eq_some_iff.1 spelled
      obtain ⟨behind, first, others⟩ := begins_of_pieces read
      exact .unit first (single not) (ih others spelledMore)
  | case7 => cases spelled
  | case8 n rest _ not ih =>
      obtain ⟨more, spelledMore, rfl⟩ := Option.map_eq_some_iff.1 spelled
      obtain ⟨behind, first, others⟩ := begins_of_pieces read
      exact .unit first (single not) (ih others spelledMore)

/-- A string of the grammar is read as its text, and no other text is. -/
theorem string_eq_some_iff {s : String} :
    string source = some (some s, rest) ↔ Quotation s.toList source rest := by
  constructor
  · intro h
    obtain ⟨⟨found, _⟩, read, same⟩ := Option.map_eq_some_iff.1 h
    obtain ⟨text, rfl⟩ := Prod.mk.inj same
    obtain ⟨chars, spelled, rfl⟩ := Option.map_eq_some_iff.1 text
    rw [String.toList_ofList]
    exact quotation_of_pieces read spelled
  · intro h
    obtain ⟨found, pieces, spelled⟩ := exists_pieces h
    simp [string, pieces, spelled]

end Reader

/-! ### Numbers -/

open Reader (NumberParts digits exponent exponentDigits fraction numberParts unsigned)

variable {source rest : Source}

theorem isDigit_iff_mem {c : Char} : isDigit c = true ↔ c ∈ "0123456789".toList := by
  simp only [isDigit_iff, String.reduceToList, List.mem_cons, List.not_mem_nil, or_false,
    ← Char.toNat_inj, Char.reduceToNat]
  omega

/-- Whether a rest does not go on with a number. -/
def EndsNumber (rest : Source) : Prop :=
  ∀ c more, rest = some c :: more → isDigit c = false ∧ c ≠ '.' ∧ c ≠ 'e' ∧ c ≠ 'E'

theorem endsNumber_nil : EndsNumber [] := nofun

theorem EndsNumber.of_blank (blank : Blank source rest) (ends : EndsNumber rest) :
    EndsNumber source := by
  cases blank with
  | none => exact ends
  | space mem =>
      have all : ∀ c ∈ spaces, isDigit c = false ∧ c ≠ '.' ∧ c ≠ 'e' ∧ c ≠ 'E' := by
        simp [spaces, isDigit]
      rintro _ _ ⟨⟩
      exact all _ mem

theorem EndsNumber.digits_eq_nil (ends : EndsNumber rest) : digits rest = ([], rest) := by
  cases rest with
  | nil => rfl
  | cons c more =>
      cases c with
      | none => rfl
      | some c =>
          obtain ⟨no, -⟩ := ends c more rfl
          rw [digits, if_neg (Bool.eq_false_iff.1 no)]

/-- Digits are read to their end, if no further ones follow. -/
theorem Digits.digits_eq {found : List Char} (h : Digits found source rest)
    (stop : digits rest = ([], rest)) : digits source = (found, rest) := by
  obtain ⟨-, all⟩ := h
  induction found with
  | nil => exact stop
  | cons c more ih =>
      obtain ⟨first, others⟩ := List.forall_mem_cons.1 all
      rw [List.map_cons, List.cons_append, digits, if_pos (isDigit_iff_mem.2 first), ih others]

theorem Digits.of_eq {found : List Char} (h : digits source = (found, rest))
    (filled : found ≠ []) : Digits found source rest := by
  have split : source = found.map some ++ rest ∧ ∀ c ∈ found, isDigit c = true := by
    clear filled
    induction source generalizing found with
    | nil =>
        cases h
        exact ⟨rfl, nofun⟩
    | cons c more ih =>
        unfold digits at h
        split at h
        · rename_i eq
          cases eq
          split at h
          · rename_i digit
            cases h
            obtain ⟨split, all⟩ := ih rfl
            refine ⟨congrArg _ split, List.forall_mem_cons.2 ⟨digit, all⟩⟩
          · cases h
            exact ⟨rfl, nofun⟩
        · cases h
          exact ⟨rfl, nofun⟩
  rw [split.1]
  exact .run filled fun c mem => isDigit_iff_mem.1 (split.2 c mem)

theorem Digits.exponentDigits_eq {found : List Char} (h : Digits found source rest)
    (stop : digits rest = ([], rest)) (negative : Bool) :
    exponentDigits negative source =
      some (some (if negative then -(decimalValue found : Int) else decimalValue found), rest) := by
  obtain ⟨filled, -⟩ := id h
  obtain ⟨c, more, rfl⟩ := List.exists_cons_of_ne_nil filled
  rw [exponentDigits, h.digits_eq stop]

theorem Digits.of_exponentDigits_eq {negative : Bool} {power : Option Int}
    (h : exponentDigits negative source = some (power, rest)) :
    ∃ found, Digits found source rest ∧
      power = some (if negative then -(decimalValue found : Int) else decimalValue found) := by
  unfold exponentDigits at h
  split at h
  · cases h
  · rename_i found after filled read
    cases h
    exact ⟨found, Digits.of_eq read filled, rfl⟩

theorem Digits.exists_eq_cons {found : List Char} (h : Digits found source rest) :
    ∃ c more, source = some c :: more ∧ isDigit c = true := by
  obtain ⟨filled, all⟩ := h
  obtain ⟨c, more, rfl⟩ := List.exists_cons_of_ne_nil filled
  exact ⟨c, _, rfl, isDigit_iff_mem.2 (all c List.mem_cons_self)⟩

theorem Exponent.exponent_eq {power : Option Int} (h : Exponent power source rest)
    (ends : EndsNumber rest) : exponent source = some (power, rest) := by
  cases h with
  | none =>
      cases source with
      | nil => rfl
      | cons c more =>
          cases c with
          | none => rfl
          | some c =>
              obtain ⟨-, -, lower, upper⟩ := ends c more rfl
              simp [exponent, lower, upper]
  | plain mark digits =>
      have read := digits.exponentDigits_eq ends.digits_eq_nil false
      obtain ⟨c, more, rfl, digit⟩ := digits.exists_eq_cons
      have plus : c ≠ '+' := by rintro rfl; cases digit
      have minus : c ≠ '-' := by rintro rfl; cases digit
      simpa [exponent, mark, plus, minus] using read
  | plus mark digits =>
      simpa [exponent, mark] using digits.exponentDigits_eq ends.digits_eq_nil false
  | minus mark digits =>
      simpa [exponent, mark] using digits.exponentDigits_eq ends.digits_eq_nil true

theorem Exponent.of_eq {power : Option Int} (h : exponent source = some (power, rest)) :
    Exponent power source rest := by
  unfold exponent at h
  split at h
  · split at h
    · rename_i mark
      split at h
      · obtain ⟨found, digits, rfl⟩ := Digits.of_exponentDigits_eq h
        exact .plus mark digits
      · obtain ⟨found, digits, rfl⟩ := Digits.of_exponentDigits_eq h
        exact .minus mark digits
      · obtain ⟨found, digits, rfl⟩ := Digits.of_exponentDigits_eq h
        exact .plain mark digits
    · cases h
      exact .none
  · cases h
    exact .none

/-- No digit and no point stands in front of an exponent, nor behind a number without one. -/
theorem Exponent.stops {power : Option Int} (h : Exponent power source rest)
    (ends : EndsNumber rest) :
    digits source = ([], source) ∧ ∀ more, source ≠ some '.' :: more := by
  have marked {e : Char} (mark : e = 'e' ∨ e = 'E') (source : Source) :
      digits (some e :: source) = ([], some e :: source) ∧
        ∀ more, some e :: source ≠ some '.' :: more := by
    rcases mark with rfl | rfl <;> exact ⟨rfl, nofun⟩
  cases h with
  | none => exact ⟨ends.digits_eq_nil, fun more eq => (ends '.' more eq).2.1 rfl⟩
  | plain mark => exact marked mark _
  | plus mark => exact marked mark _
  | minus mark => exact marked mark _

theorem Fraction.fraction_eq {places : Option (List Char)} (h : Fraction places source rest)
    (stop : digits rest = ([], rest)) (noPoint : ∀ more, rest ≠ some '.' :: more) :
    fraction source = some (places, rest) := by
  cases h with
  | none =>
      unfold fraction
      split
      · exact absurd rfl (noPoint _)
      · rfl
  | places found =>
      obtain ⟨filled, -⟩ := id found
      obtain ⟨c, more, rfl⟩ := List.exists_cons_of_ne_nil filled
      rw [fraction, found.digits_eq stop]

theorem Fraction.digits_eq_nil {places : Option (List Char)} (h : Fraction places source rest)
    (stop : digits rest = ([], rest)) : digits source = ([], source) := by
  cases h with
  | none => exact stop
  | places => rfl

theorem Fraction.of_eq {places : Option (List Char)} (h : fraction source = some (places, rest)) :
    Fraction places source rest := by
  unfold fraction at h
  split at h
  · split at h
    · cases h
    · rename_i found after filled read
      cases h
      exact .places (Digits.of_eq read filled)
  · cases h
    exact .none

theorem Unsigned.unsigned_eq {parts : NumberParts} (h : Unsigned parts source rest)
    (ends : EndsNumber rest) : unsigned parts.negative source = some (parts, rest) := by
  obtain ⟨whole, leading, places, power⟩ := h
  obtain ⟨stop, noPoint⟩ := power.stops ends
  rw [unsigned, whole.digits_eq (places.digits_eq_nil stop)]
  split
  · rename_i eq
    obtain ⟨filled, -⟩ := whole
    exact absurd (Prod.mk.inj eq).1 filled
  · rename_i eq
    exact absurd (Prod.mk.inj eq).1 (leading _ _)
  · rename_i eq
    obtain ⟨rfl, rfl⟩ := Prod.mk.inj eq
    rw [places.fraction_eq stop noPoint]
    show (exponent _).bind _ = _
    rw [power.exponent_eq ends]
    rfl

theorem Unsigned.of_eq {parts : NumberParts} {negative : Bool}
    (h : unsigned negative source = some (parts, rest)) :
    parts.negative = negative ∧ Unsigned parts source rest := by
  unfold unsigned at h
  split at h
  · cases h
  · cases h
  · rename_i whole point filled leading read
    obtain ⟨⟨places, mark⟩, fraction, h⟩ := Option.bind_eq_some_iff.1 h
    obtain ⟨⟨power, behind⟩, exponent, h⟩ := Option.bind_eq_some_iff.1 h
    cases h
    exact ⟨rfl, .parts (Digits.of_eq read filled) leading (Fraction.of_eq fraction)
      (Exponent.of_eq exponent)⟩

/-- A number of the grammar is read as its parts, if no more of it follows. -/
theorem Numeral.numberParts_eq {parts : NumberParts} (h : Numeral parts source rest)
    (ends : EndsNumber rest) : numberParts source = some (parts, rest) := by
  cases h with
  | positive sign unsigned =>
      have read := unsigned.unsigned_eq ends
      rw [sign] at read
      obtain ⟨whole, -, -, -⟩ := unsigned
      obtain ⟨c, more, rfl, digit⟩ := whole.exists_eq_cons
      unfold numberParts
      split
      · rename_i eq
        cases (List.cons.inj eq).1
        cases digit
      · exact read
  | negative sign unsigned =>
      have read := unsigned.unsigned_eq ends
      rw [sign] at read
      exact read

theorem Numeral.of_eq {parts : NumberParts} (h : numberParts source = some (parts, rest)) :
    Numeral parts source rest := by
  unfold numberParts at h
  split at h
  · obtain ⟨sign, unsigned⟩ := Unsigned.of_eq h
    exact .negative sign unsigned
  · obtain ⟨sign, unsigned⟩ := Unsigned.of_eq h
    exact .positive sign unsigned

end ItemStore.Json
