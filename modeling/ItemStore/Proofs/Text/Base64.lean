import Mathlib
import ItemStore.Json.Decoding
import ItemStore.Proofs.Text.Utf8

/-!
# ItemStore.Proofs.Text.Base64

Binary data that is written in Base64 and read from it. What is written is read back, and what is
read is written as it stands; so the texts that are read are the canonical ones (`IsCanonical`).
-/

namespace ItemStore.Base64

/-! ### Symbols as bytes -/

/-- The symbol of a value, as a byte. -/
def code (n : Nat) : UInt8 := UInt8.ofNat (symbol n).toNat

theorem symbol_lt (n : Nat) : (symbol n).toNat < 128 := by
  have values : ∀ n < 64, (symbol n).toNat < 128 := by decide
  by_cases small : n < 64
  · exact values n small
  · rw [symbol, if_neg (by omega), if_neg (by omega), if_neg (by omega), if_neg (by omega)]
    decide

theorem value?_code : ∀ {n : Nat}, n < 64 → value? (code n) = some n := by decide

theorem code_ne_padByte : ∀ {n : Nat}, n < 64 → code n ≠ padByte := by decide

theorem valueAt_code {n : Nat} (h : n < 64) (offset : Nat) : valueAt (code n) offset = .ok n := by
  rw [valueAt, value?_code h]

/-! ### The last group -/

theorem tail_code {n : Nat} (h : n < 64) (start : Nat) (rest : List UInt8)
    (symbols : List (UInt8 × Nat)) :
    tail start (code n :: rest) ⟨symbols, 0⟩ = tail start rest ⟨symbols ++ [(code n, n)], 0⟩ := by
  rw [tail, if_neg (code_ne_padByte h), if_neg (Nat.lt_irrefl 0), value?_code h]

theorem tail_padByte (start : Nat) (rest : List UInt8) {group : Tail}
    (h : 2 ≤ group.symbols.length + group.pads) :
    tail start (padByte :: rest) group = tail start rest { group with pads := group.pads + 1 } := by
  rw [tail, if_pos rfl, if_neg (Nat.not_lt.2 h)]

theorem decodeGroups_last {a b c d : UInt8} {offset : Nat} {group : Tail}
    (h : tail offset [a, b, c, d] ⟨[], 0⟩ = .ok group) :
    decodeGroups offset [a, b, c, d] = finish offset group := by
  rw [decodeGroups, h]
  · rfl
  · simp
  · simp

/-- Two symbols hold a byte, if the second has no bits to spare. -/
theorem decodeGroups_two {m n : Nat} (hm : m < 64) (hn : n < 64) (spare : n % 16 = 0)
    (offset : Nat) :
    decodeGroups offset [code m, code n, padByte, padByte] =
      .ok [UInt8.ofNat (m * 4 + n / 16)] := by
  have group : tail offset [code m, code n, padByte, padByte] ⟨[], 0⟩ =
      .ok ⟨[(code m, m), (code n, n)], 2⟩ := by
    rw [tail_code hm, tail_code hn, tail_padByte _ _ (by simp), tail_padByte _ _ (by simp)]
    rfl
  rw [decodeGroups_last group]
  simp only [finish, List.length_cons, List.length_nil]
  rw [if_neg (by omega), if_neg (by omega), if_pos spare]
  rfl

/-- Three symbols hold two bytes, if the third has no bits to spare. -/
theorem decodeGroups_three {m n k : Nat} (hm : m < 64) (hn : n < 64) (hk : k < 64)
    (spare : k % 4 = 0) (offset : Nat) :
    decodeGroups offset [code m, code n, code k, padByte] =
      .ok [UInt8.ofNat (m * 4 + n / 16), UInt8.ofNat (n % 16 * 16 + k / 4)] := by
  have group : tail offset [code m, code n, code k, padByte] ⟨[], 0⟩ =
      .ok ⟨[(code m, m), (code n, n), (code k, k)], 1⟩ := by
    rw [tail_code hm, tail_code hn, tail_code hk, tail_padByte _ _ (by simp)]
    rfl
  rw [decodeGroups_last group]
  simp only [finish, List.length_cons, List.length_nil]
  rw [if_neg (by omega), if_neg (by omega), if_pos spare]
  rfl

/-- Four symbols hold three bytes, whether further ones follow or not. -/
theorem decodeGroups_four {m n k l : Nat} (hm : m < 64) (hn : n < 64) (hk : k < 64) (hl : l < 64)
    {more : List UInt8} {bytes : List UInt8} {offset : Nat}
    (others : decodeGroups (offset + 4) more = .ok bytes) :
    decodeGroups offset (code m :: code n :: code k :: code l :: more) =
      .ok (UInt8.ofNat (m * 4 + n / 16) :: UInt8.ofNat (n % 16 * 16 + k / 4) ::
        UInt8.ofNat (k % 4 * 64 + l) :: bytes) := by
  cases more with
  | nil =>
      have group : tail offset [code m, code n, code k, code l] ⟨[], 0⟩ =
          .ok ⟨[(code m, m), (code n, n), (code k, k), (code l, l)], 0⟩ := by
        rw [tail_code hm, tail_code hn, tail_code hk, tail_code hl]
        rfl
      cases others
      rw [decodeGroups_last group]
      simp only [finish, List.length_cons, List.length_nil]
      rw [if_neg (by omega), if_neg (by omega)]
      rfl
  | cons next rest =>
      rw [decodeGroups, valueAt_code hm, valueAt_code hn, valueAt_code hk, valueAt_code hl]
      simp only [bind, Except.bind, others]
      rfl

/-! ### Texts -/

theorem decodeGroups_encodeBytes (bytes : List UInt8) (offset : Nat) :
    decodeGroups offset ((encodeBytes bytes).map fun c => UInt8.ofNat c.toNat) = .ok bytes := by
  induction bytes using encodeBytes.induct generalizing offset with
  | case1 => rfl
  | case2 a =>
      have := a.toNat_lt
      have byte : a.toNat / 4 * 4 + a.toNat % 4 * 16 / 16 = a.toNat := by omega
      have group := decodeGroups_two (m := a.toNat / 4) (n := a.toNat % 4 * 16) (by omega)
        (by omega) (by omega) offset
      rw [byte, UInt8.ofNat_toNat] at group
      exact group
  | case3 a b =>
      have := a.toNat_lt
      have := b.toNat_lt
      have first : a.toNat / 4 * 4 + (a.toNat % 4 * 16 + b.toNat / 16) / 16 = a.toNat := by omega
      have second : (a.toNat % 4 * 16 + b.toNat / 16) % 16 * 16 + b.toNat % 16 * 4 / 4 =
          b.toNat := by omega
      have group := decodeGroups_three (m := a.toNat / 4) (n := a.toNat % 4 * 16 + b.toNat / 16)
        (k := b.toNat % 16 * 4) (by omega) (by omega) (by omega) (by omega) offset
      rw [first, second, UInt8.ofNat_toNat, UInt8.ofNat_toNat] at group
      exact group
  | case4 a b c rest ih =>
      have := a.toNat_lt
      have := b.toNat_lt
      have := c.toNat_lt
      have first : a.toNat / 4 * 4 + (a.toNat % 4 * 16 + b.toNat / 16) / 16 = a.toNat := by omega
      have second : (a.toNat % 4 * 16 + b.toNat / 16) % 16 * 16 +
          (b.toNat % 16 * 4 + c.toNat / 64) / 4 = b.toNat := by omega
      have third : (b.toNat % 16 * 4 + c.toNat / 64) % 4 * 64 + c.toNat % 64 = c.toNat := by omega
      have group := decodeGroups_four (m := a.toNat / 4) (n := a.toNat % 4 * 16 + b.toNat / 16)
        (k := b.toNat % 16 * 4 + c.toNat / 64) (l := c.toNat % 64) (by omega) (by omega)
        (by omega) (by omega) (ih (offset + 4))
      rw [first, second, third, UInt8.ofNat_toNat, UInt8.ofNat_toNat, UInt8.ofNat_toNat] at group
      exact group

theorem length_encodeBytes (bytes : List UInt8) : (encodeBytes bytes).length % 4 = 0 := by
  induction bytes using encodeBytes.induct with
  | case1 => rfl
  | case2 a => simp [encodeBytes]
  | case3 a b => simp [encodeBytes]
  | case4 a b c rest ih =>
      simp only [encodeBytes, List.length_cons]
      omega

/-- Texts in Base64 are made of characters below 128. -/
theorem lt_of_mem_encodeBytes {bytes : List UInt8} {c : Char} (mem : c ∈ encodeBytes bytes) :
    c.toNat < 128 := by
  have padded : pad.toNat < 128 := by decide
  induction bytes using encodeBytes.induct with
  | case1 => cases mem
  | case2 a =>
      simp only [encodeBytes, List.mem_cons, List.not_mem_nil, or_false] at mem
      rcases mem with rfl | rfl | rfl | rfl
      · exact symbol_lt _
      · exact symbol_lt _
      · exact padded
      · exact padded
  | case3 a b =>
      simp only [encodeBytes, List.mem_cons, List.not_mem_nil, or_false] at mem
      rcases mem with rfl | rfl | rfl | rfl
      · exact symbol_lt _
      · exact symbol_lt _
      · exact symbol_lt _
      · exact padded
  | case4 a b c rest ih =>
      simp only [encodeBytes, List.mem_cons] at mem
      rcases mem with rfl | rfl | rfl | rfl | mem
      · exact symbol_lt _
      · exact symbol_lt _
      · exact symbol_lt _
      · exact symbol_lt _
      · exact ih mem

/-- Binary data is read back from its text. -/
theorem decode_encode (bytes : List UInt8) : decode (encode bytes) = .ok bytes := by
  rw [decode, encode, String.toList_ofList, Text.utf8_of_lt fun c => lt_of_mem_encodeBytes]
  unfold decodeBytes
  split
  · rename_i none
    have empty : encodeBytes bytes = [] := by simpa using none
    have groups := decodeGroups_encodeBytes bytes 0
    rw [empty] at groups
    exact groups
  · have length := length_encodeBytes bytes
    rw [if_neg, decodeGroups_encodeBytes]
    rw [List.length_map]
    omega

/-! ### Texts that are read -/

/-- A byte with a value is the symbol of the value. -/
theorem code_of_value? {b : UInt8} {n : Nat} (h : value? b = some n) : n < 64 ∧ code n = b := by
  have all : ∀ k < 256, ∀ n ∈ value? (UInt8.ofNat k), n < 64 ∧ code n = UInt8.ofNat k := by
    decide +kernel
  have found := all b.toNat b.toNat_lt
  rw [UInt8.ofNat_toNat] at found
  exact found n h

theorem code_of_valueAt {b : UInt8} {offset n : Nat} (h : valueAt b offset = .ok n) :
    n < 64 ∧ code n = b := by
  unfold valueAt at h
  split at h
  · rename_i value
    cases h
    exact code_of_value? value
  · cases h

/-- The bytes that a group was read from. -/
def Tail.source (group : Tail) : List UInt8 :=
  group.symbols.map Prod.fst ++ List.replicate group.pads padByte

/-- Whether the symbols of a group have their values. -/
def Tail.Valued (group : Tail) : Prop := ∀ symbol ∈ group.symbols, value? symbol.1 = some symbol.2

/-- What a last group shows is what it was read from. -/
theorem tail_eq_ok {start : Nat} {input : List UInt8} {before after : Tail}
    (h : tail start input before = .ok after) (valued : before.Valued) :
    before.source ++ input = after.source ∧ after.Valued := by
  induction input generalizing before with
  | nil =>
      cases h
      exact ⟨List.append_nil _, valued⟩
  | cons b rest ih =>
      rw [tail] at h
      split at h
      · rename_i pad
        split at h
        · cases h
        · obtain ⟨same, kept⟩ := ih h valued
          refine ⟨?_, kept⟩
          rw [← same, pad]
          simp [Tail.source, List.replicate_succ']
      · split at h
        · cases h
        · rename_i none
          split at h
          · cases h
          · rename_i n value
            obtain ⟨same, kept⟩ := ih h (by
              intro symbol mem
              rcases List.mem_append.1 mem with mem | mem
              · exact valued symbol mem
              · rw [List.mem_singleton.1 mem]
                exact value)
            refine ⟨?_, kept⟩
            have pads : before.pads = 0 := by omega
            rw [← same]
            simp [Tail.source, pads]

theorem encodeBytes_two {m n : Nat} (hm : m < 64) (hn : n < 64) (spare : n % 16 = 0) :
    encodeBytes [UInt8.ofNat (m * 4 + n / 16)] = [symbol m, symbol n, pad, pad] := by
  have first : (m * 4 + n / 16) / 4 = m := by omega
  have second : (m * 4 + n / 16) % 4 * 16 = n := by omega
  simp only [encodeBytes, Text.Source.toNat_ofNat (show m * 4 + n / 16 < 256 by omega), first,
    second]

theorem encodeBytes_three {m n k : Nat} (hm : m < 64) (hn : n < 64) (hk : k < 64)
    (spare : k % 4 = 0) :
    encodeBytes [UInt8.ofNat (m * 4 + n / 16), UInt8.ofNat (n % 16 * 16 + k / 4)] =
      [symbol m, symbol n, symbol k, pad] := by
  have first : (m * 4 + n / 16) / 4 = m := by omega
  have second : (m * 4 + n / 16) % 4 * 16 + (n % 16 * 16 + k / 4) / 16 = n := by omega
  have third : (n % 16 * 16 + k / 4) % 16 * 4 = k := by omega
  simp only [encodeBytes, Text.Source.toNat_ofNat (show m * 4 + n / 16 < 256 by omega),
    Text.Source.toNat_ofNat (show n % 16 * 16 + k / 4 < 256 by omega), first, second, third]

theorem encodeBytes_four {m n k l : Nat} (hm : m < 64) (hn : n < 64) (hk : k < 64) (hl : l < 64)
    (bytes : List UInt8) :
    encodeBytes (UInt8.ofNat (m * 4 + n / 16) :: UInt8.ofNat (n % 16 * 16 + k / 4) ::
        UInt8.ofNat (k % 4 * 64 + l) :: bytes) =
      symbol m :: symbol n :: symbol k :: symbol l :: encodeBytes bytes := by
  have first : (m * 4 + n / 16) / 4 = m := by omega
  have second : (m * 4 + n / 16) % 4 * 16 + (n % 16 * 16 + k / 4) / 16 = n := by omega
  have third : (n % 16 * 16 + k / 4) % 16 * 4 + (k % 4 * 64 + l) / 64 = k := by omega
  have fourth : (k % 4 * 64 + l) % 64 = l := by omega
  simp only [encodeBytes, Text.Source.toNat_ofNat (show m * 4 + n / 16 < 256 by omega),
    Text.Source.toNat_ofNat (show n % 16 * 16 + k / 4 < 256 by omega),
    Text.Source.toNat_ofNat (show k % 4 * 64 + l < 256 by omega), first, second, third, fourth]

/-- The bytes of the text of a byte sequence. -/
def codes (bytes : List UInt8) : List UInt8 :=
  (encodeBytes bytes).map fun c => UInt8.ofNat c.toNat

/-- A complete last group writes what it was read from. -/
theorem codes_of_finish {start : Nat} {group : Tail} {bytes : List UInt8}
    (h : finish start group = .ok bytes) (valued : group.Valued)
    (short : group.source.length ≤ 4) : codes bytes = group.source := by
  obtain ⟨symbols, pads⟩ := group
  simp only [Tail.source, List.length_append, List.length_map, List.length_replicate] at short
  simp only [finish] at h
  split at h
  · cases h
  split at h
  · cases h
  rename_i some full
  have value {b : UInt8} {n : Nat} (mem : (b, n) ∈ symbols) : n < 64 ∧ code n = b :=
    code_of_value? (valued (b, n) mem)
  split at h
  · rename_i _ p a q b
    obtain ⟨ha, rfl⟩ := value (b := p) (n := a) (by simp)
    obtain ⟨hb, rfl⟩ := value (b := q) (n := b) (by simp)
    split at h
    · rename_i spare
      obtain rfl : pads = 2 := by simp only [List.length_cons, List.length_nil] at *; omega
      cases h
      exact congrArg (List.map _) (encodeBytes_two ha hb spare)
    · cases h
  · rename_i _ p a q b r c
    obtain ⟨ha, rfl⟩ := value (b := p) (n := a) (by simp)
    obtain ⟨hb, rfl⟩ := value (b := q) (n := b) (by simp)
    obtain ⟨hc, rfl⟩ := value (b := r) (n := c) (by simp)
    split at h
    · rename_i spare
      obtain rfl : pads = 1 := by simp only [List.length_cons, List.length_nil] at *; omega
      cases h
      exact congrArg (List.map _) (encodeBytes_three ha hb hc spare)
    · cases h
  · rename_i _ p a q b r c s d
    obtain ⟨ha, rfl⟩ := value (b := p) (n := a) (by simp)
    obtain ⟨hb, rfl⟩ := value (b := q) (n := b) (by simp)
    obtain ⟨hc, rfl⟩ := value (b := r) (n := c) (by simp)
    obtain ⟨hd, rfl⟩ := value (b := s) (n := d) (by simp)
    obtain rfl : pads = 0 := by simp only [List.length_cons, List.length_nil] at *; omega
    cases h
    exact congrArg (List.map _) (encodeBytes_four ha hb hc hd [])
  · cases h

/-- Groups that are read are written as they stand. -/
theorem codes_of_decodeGroups {input bytes : List UInt8} {offset : Nat}
    (h : decodeGroups offset input = .ok bytes) : codes bytes = input := by
  induction offset, input using decodeGroups.induct generalizing bytes with
  | case1 => cases h; rfl
  | case2 offset a b c d e rest ih =>
      rw [decodeGroups] at h
      obtain ⟨m, first, h⟩ := Json.bind_eq_ok h
      obtain ⟨n, second, h⟩ := Json.bind_eq_ok h
      obtain ⟨k, third, h⟩ := Json.bind_eq_ok h
      obtain ⟨l, fourth, h⟩ := Json.bind_eq_ok h
      obtain ⟨more, others, h⟩ := Json.bind_eq_ok h
      cases h
      obtain ⟨hm, rfl⟩ := code_of_valueAt first
      obtain ⟨hn, rfl⟩ := code_of_valueAt second
      obtain ⟨hk, rfl⟩ := code_of_valueAt third
      obtain ⟨hl, rfl⟩ := code_of_valueAt fourth
      rw [← ih others]
      exact congrArg (List.map _) (encodeBytes_four hm hn hk hl more)
  | case3 offset last some few =>
      have short : last.length ≤ 4 := by
        rcases last with _ | ⟨a, _ | ⟨b, _ | ⟨c, _ | ⟨d, _ | ⟨e, rest⟩⟩⟩⟩⟩
        · simp
        · simp
        · simp
        · simp
        · simp
        · exact absurd rfl (few a b c d e rest)
      rw [decodeGroups] at h
      · obtain ⟨group, shown, h⟩ := Json.bind_eq_ok h
        obtain ⟨same, valued⟩ := tail_eq_ok shown (by intro symbol mem; cases mem)
        have whole : last = group.source := same
        rw [codes_of_finish h valued (whole ▸ short), ← whole]
      · exact some
      · exact few

theorem encode_of_decode {text : String} {bytes : List UInt8} (h : decode text = .ok bytes) :
    encode bytes = text := by
  have groups : codes bytes = Text.utf8 text.toList := by
    unfold decode decodeBytes at h
    split at h
    · rename_i none
      cases h
      rw [List.getLast?_eq_none_iff.1 none]
      rfl
    · split at h
      · cases h
      · exact codes_of_decodeGroups h
  have same : Text.utf8 (encodeBytes bytes) = Text.utf8 text.toList := by
    rw [Text.utf8_of_lt fun c => lt_of_mem_encodeBytes, ← groups]
    rfl
  rw [encode, Text.utf8_injective same, String.ofList_toList]

/-! ### Canonical texts -/

/-- The symbols, in the order of their values. -/
def alphabet : List Char :=
  "ABCDEFGHIJKLMNOPQRSTUVWXYZabcdefghijklmnopqrstuvwxyz0123456789+/".toList

/--
The texts of RFC 4648 with padding: groups of four symbols, the last of which may be filled up with
padding. Then its last symbol has no bits to spare: it is one of four for a single byte, and one of
sixteen for two.
-/
inductive IsCanonical : List Char → Prop
  | nil : IsCanonical []
  | one {a b : Char} (ha : a ∈ alphabet) (hb : b ∈ "AQgw".toList) : IsCanonical [a, b, '=', '=']
  | two {a b c : Char} (ha : a ∈ alphabet) (hb : b ∈ alphabet)
      (hc : c ∈ "AEIMQUYcgkosw048".toList) : IsCanonical [a, b, c, '=']
  | three {a b c d : Char} {rest : List Char} (ha : a ∈ alphabet) (hb : b ∈ alphabet)
      (hc : c ∈ alphabet) (hd : d ∈ alphabet) (others : IsCanonical rest) :
      IsCanonical (a :: b :: c :: d :: rest)

theorem mem_alphabet_iff {c : Char} : c ∈ alphabet ↔ ∃ n < 64, symbol n = c := by
  have all : alphabet = (List.range 64).map symbol := by decide +kernel
  simp [all]

/-- The last symbols for a single byte are those with four bits to spare. -/
theorem mem_last_one_iff {c : Char} : c ∈ "AQgw".toList ↔ ∃ n < 4, symbol (n * 16) = c := by
  have all : "AQgw".toList = (List.range 4).map fun n => symbol (n * 16) := by decide +kernel
  simp only [all, List.mem_map, List.mem_range]

/-- The last symbols for two bytes are those with two bits to spare. -/
theorem mem_last_two_iff {c : Char} :
    c ∈ "AEIMQUYcgkosw048".toList ↔ ∃ n < 16, symbol (n * 4) = c := by
  have all : "AEIMQUYcgkosw048".toList = (List.range 16).map fun n => symbol (n * 4) := by
    decide +kernel
  simp only [all, List.mem_map, List.mem_range]

/-- The canonical texts are those of byte sequences. -/
theorem isCanonical_iff {chars : List Char} :
    IsCanonical chars ↔ ∃ bytes, encodeBytes bytes = chars := by
  constructor
  · intro h
    induction h with
    | nil => exact ⟨[], rfl⟩
    | one ha hb =>
        obtain ⟨m, hm, rfl⟩ := mem_alphabet_iff.1 ha
        obtain ⟨n, hn, rfl⟩ := mem_last_one_iff.1 hb
        exact ⟨_, encodeBytes_two hm (by omega) (by omega)⟩
    | two ha hb hc =>
        obtain ⟨m, hm, rfl⟩ := mem_alphabet_iff.1 ha
        obtain ⟨n, hn, rfl⟩ := mem_alphabet_iff.1 hb
        obtain ⟨k, hk, rfl⟩ := mem_last_two_iff.1 hc
        exact ⟨_, encodeBytes_three hm hn (by omega) (by omega)⟩
    | three ha hb hc hd _ ih =>
        obtain ⟨bytes, rfl⟩ := ih
        obtain ⟨m, hm, rfl⟩ := mem_alphabet_iff.1 ha
        obtain ⟨n, hn, rfl⟩ := mem_alphabet_iff.1 hb
        obtain ⟨k, hk, rfl⟩ := mem_alphabet_iff.1 hc
        obtain ⟨l, hl, rfl⟩ := mem_alphabet_iff.1 hd
        exact ⟨_, encodeBytes_four hm hn hk hl bytes⟩
  · rintro ⟨bytes, rfl⟩
    induction bytes using encodeBytes.induct with
    | case1 => exact .nil
    | case2 a =>
        have := a.toNat_lt
        exact .one (mem_alphabet_iff.2 ⟨_, by omega, rfl⟩) (mem_last_one_iff.2 ⟨_, by omega, rfl⟩)
    | case3 a b =>
        have := a.toNat_lt
        have := b.toNat_lt
        exact .two (mem_alphabet_iff.2 ⟨_, by omega, rfl⟩) (mem_alphabet_iff.2 ⟨_, by omega, rfl⟩)
          (mem_last_two_iff.2 ⟨_, by omega, rfl⟩)
    | case4 a b c rest ih =>
        have := a.toNat_lt
        have := b.toNat_lt
        have := c.toNat_lt
        exact .three (mem_alphabet_iff.2 ⟨_, by omega, rfl⟩) (mem_alphabet_iff.2 ⟨_, by omega, rfl⟩)
          (mem_alphabet_iff.2 ⟨_, by omega, rfl⟩) (mem_alphabet_iff.2 ⟨_, by omega, rfl⟩) ih

/-- The texts that are read are the canonical ones. -/
theorem exists_decode_iff {text : String} :
    (∃ bytes, decode text = .ok bytes) ↔ IsCanonical text.toList := by
  rw [isCanonical_iff]
  constructor
  · rintro ⟨bytes, read⟩
    exact ⟨bytes, by rw [← encode_of_decode read, encode, String.toList_ofList]⟩
  · rintro ⟨bytes, written⟩
    refine ⟨bytes, ?_⟩
    rw [← decode_encode bytes, encode, written, String.ofList_toList]

end ItemStore.Base64
