import Mathlib
import ItemStore.Text.Source

/-!
# ItemStore.Proofs.Text.Utf8

Text that is written as bytes and read from them: no character is lost, and there are no gaps. The
order of texts is the order of their bytes.
-/

namespace ItemStore.Text

namespace Source

theorem toNat_ofNat {n : Nat} (h : n < 256) : (UInt8.ofNat n).toNat = n := by
  simp only [UInt8.toNat_ofNat']
  omega

theorem character?_toNat (c : Char) {least : Nat} (h : least ≤ c.toNat) :
    character? c.toNat least = some c := by
  have valid : c.toNat.isValidChar := c.valid
  rw [character?, if_pos ⟨valid, h⟩, Char.ofNat_toNat]

/-- The first of several bytes starts a character. -/
theorem decode_first {n : Nat} {pending : Pending} (small : n < 256)
    (starts : start n = .inr pending) (rest : List UInt8) :
    decode none (UInt8.ofNat n :: rest) = decode (some pending) rest := by
  rw [decode, toNat_ofNat small, starts]

/-- A byte behind the first one adds six bits to the character under way. -/
theorem decode_next (bits due least n : Nat) (rest : List UInt8) :
    decode (some ⟨bits, due, least⟩) (UInt8.ofNat (n % 64 + 128) :: rest) =
      if due ≤ 1 then character? (64 * bits + n % 64) least :: decode none rest
      else decode (some ⟨64 * bits + n % 64, due - 1, least⟩) rest := by
  have byte : (UInt8.ofNat (n % 64 + 128)).toNat = n % 64 + 128 := toNat_ofNat (by omega)
  have inside : 0x80 ≤ n % 64 + 128 ∧ n % 64 + 128 < 0xC0 := by omega
  rw [decode, byte, if_pos inside, Nat.add_sub_cancel]

theorem toNat_lt (c : Char) : c.toNat < 0x110000 := by
  rcases (c.valid : c.toNat.isValidChar) with small | large
  · exact Nat.lt_trans small (by decide)
  · exact large.2

/-- The bytes of a character are read as the character, whatever follows. -/
theorem decode_utf8EncodeChar (c : Char) (rest : List UInt8) :
    decode none (String.utf8EncodeChar c ++ rest) = some c :: decode none rest := by
  have bound := toNat_lt c
  unfold String.utf8EncodeChar
  simp only [show c.val.toNat = c.toNat from rfl]
  split
  · have one : start c.toNat = .inl (some c) := by
      rw [start, if_pos (by omega), Char.ofNat_toNat]
    rw [List.singleton_append, decode, toNat_ofNat (by omega), one]
  split
  · have two : start (c.toNat / 64 % 32 + 192) = .inr ⟨c.toNat / 64 % 32, 1, 0x80⟩ := by
      rw [start, if_neg (by omega), if_pos (by omega), Nat.add_sub_cancel]
    have bits : 64 * (c.toNat / 64 % 32) + c.toNat % 64 = c.toNat := by omega
    simp only [List.cons_append, List.nil_append]
    rw [decode_first (by omega) two, decode_next, if_pos (by omega), bits,
      character?_toNat c (by omega)]
  split
  · have three : start (c.toNat / 4096 % 16 + 224) = .inr ⟨c.toNat / 4096 % 16, 2, 0x800⟩ := by
      rw [start, if_neg (by omega), if_neg (by omega), if_pos (by omega), Nat.add_sub_cancel]
    have bits : 64 * (64 * (c.toNat / 4096 % 16) + c.toNat / 64 % 64) + c.toNat % 64 =
        c.toNat := by omega
    simp only [List.cons_append, List.nil_append]
    rw [decode_first (by omega) three, decode_next, if_neg (by omega), decode_next,
      if_pos (by omega), bits, character?_toNat c (by omega)]
  · have four : start (c.toNat / 262144 % 8 + 240) = .inr ⟨c.toNat / 262144 % 8, 3, 0x10000⟩ := by
      rw [start, if_neg (by omega), if_neg (by omega), if_neg (by omega), if_pos (by omega),
        Nat.add_sub_cancel]
    have bits : 64 * (64 * (64 * (c.toNat / 262144 % 8) + c.toNat / 4096 % 64) +
        c.toNat / 64 % 64) + c.toNat % 64 = c.toNat := by omega
    simp only [List.cons_append, List.nil_append]
    rw [decode_first (by omega) four, decode_next, if_neg (by omega), decode_next,
      if_neg (by omega), decode_next, if_pos (by omega), bits, character?_toNat c (by omega)]

/-- Text is read back from its bytes. -/
theorem ofBytes_utf8 (chars : List Char) : ofBytes (utf8 chars) = chars.map some := by
  unfold ofBytes utf8
  induction chars with
  | nil => rfl
  | cons c rest ih => rw [List.flatMap_cons, decode_utf8EncodeChar, ih, List.map_cons]

end Source

/-- Texts with the same bytes are the same. -/
theorem utf8_injective {chars others : List Char} (h : utf8 chars = utf8 others) :
    chars = others := by
  have same := congrArg Source.ofBytes h
  rw [Source.ofBytes_utf8, Source.ofBytes_utf8] at same
  exact List.map_injective_iff.2 (Option.some_injective Char) same

/-! ### Characters of one byte -/

theorem utf8EncodeChar_of_lt {c : Char} (h : c.toNat < 128) :
    String.utf8EncodeChar c = [UInt8.ofNat c.toNat] := by
  unfold String.utf8EncodeChar
  exact if_pos (show c.val.toNat ≤ 127 from Nat.le_of_lt_succ h)

/-- Characters below 128 are one byte each. -/
theorem utf8_of_lt {chars : List Char} (h : ∀ c ∈ chars, c.toNat < 128) :
    utf8 chars = chars.map fun c => UInt8.ofNat c.toNat := by
  unfold utf8
  induction chars with
  | nil => rfl
  | cons c rest ih =>
      have first := utf8EncodeChar_of_lt (h c List.mem_cons_self)
      have others := ih fun c mem => h c (List.mem_cons_of_mem _ mem)
      rw [List.flatMap_cons, first, others]
      rfl

/-! ### The order of bytes -/

/-- Bytes are in order by the first that differ. -/
theorem bytes_lt {m n : Nat} {bytes others : List UInt8} (hm : m < 256) (hn : n < 256) (le : m ≤ n)
    (tails : m = n → bytes < others) : UInt8.ofNat m :: bytes < UInt8.ofNat n :: others := by
  rw [List.cons_lt_cons_iff, UInt8.lt_iff_toNat_lt, Source.toNat_ofNat hm, Source.toNat_ofNat hn]
  rcases Nat.lt_or_eq_of_le le with lt | eq
  · exact .inl lt
  · exact .inr ⟨congrArg UInt8.ofNat eq, tails eq⟩

/-- The bytes of a character come before those of a greater one, whatever follows either. -/
theorem utf8EncodeChar_append_lt {c d : Char} (lt : c < d) (bytes others : List UInt8) :
    String.utf8EncodeChar c ++ bytes < String.utf8EncodeChar d ++ others := by
  have less : c.toNat < d.toNat := lt
  have bound := Source.toNat_lt d
  unfold String.utf8EncodeChar
  simp only [show c.val.toNat = c.toNat from rfl, show d.val.toNat = d.toNat from rfl]
  -- Of characters with as many bytes, one byte after the other is compared; otherwise the first.
  split_ifs <;> simp only [List.cons_append, List.nil_append] <;>
    repeat' first
      | omega
      | refine bytes_lt (by omega) (by omega) (by omega) fun same => ?_

/-- Texts are ordered as their bytes are. -/
theorem utf8_lt {chars others : List Char} (lt : chars < others) : utf8 chars < utf8 others := by
  induction chars generalizing others with
  | nil =>
      cases others with
      | nil => exact absurd lt (List.lt_irrefl [])
      | cons d rest =>
          obtain ⟨byte, bytes, is⟩ := List.exists_cons_of_ne_nil (@String.utf8EncodeChar_ne_nil d)
          rw [utf8, utf8, List.flatMap_nil, List.flatMap_cons, is]
          exact List.nil_lt_cons byte _
  | cons c rest ih =>
      cases others with
      | nil => exact absurd lt (List.not_lt_nil _)
      | cons d more =>
          unfold utf8 at ih ⊢
          rw [List.flatMap_cons, List.flatMap_cons]
          rcases List.cons_lt_cons_iff.1 lt with first | ⟨same, later⟩
          · exact utf8EncodeChar_append_lt first _ _
          · rw [same]
            exact List.append_left_lt (ih later)

end ItemStore.Text
