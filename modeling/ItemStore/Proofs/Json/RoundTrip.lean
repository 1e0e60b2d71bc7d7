import Mathlib
import ItemStore.Json.Printer
import ItemStore.Proofs.Json.Texts
import ItemStore.Proofs.Text.Utf8

/-!
# ItemStore.Proofs.Json.RoundTrip

Documents that are printed and read: what is printed for a document is a text of it, so the reader
finds the document's outline in it.
-/

namespace ItemStore.Json

open ItemStore.Text (Source)

/-! ### Strings -/

section Strings

variable {chars : List Char} {source rest : Source}

/-- What is printed for a character spells it in front of what a string goes on with. -/
theorem Quotation.escaped (c : Char) (more : Quotation chars source rest) :
    Quotation (c :: chars) ((escaped c).map some ++ source) rest := by
  unfold Json.escaped
  -- The characters that are escaped by a letter.
  iterate 7
    split
    · rename_i eq
      subst eq
      exact .escape (by decide) more
  split
  · rename_i control
    have hex : ∀ n < 0x20, (hexDigit (n / 16), n / 16) ∈ hexDigits ∧
        (hexDigit (n % 16), n % 16) ∈ hexDigits := by decide +kernel
    have zero : ('0', 0) ∈ hexDigits := by decide +kernel
    obtain ⟨third, fourth⟩ := hex c.toNat control
    have unit : UnitEscape _ _ source := .digits zero zero third fourth
    rw [show 4096 * 0 + 256 * 0 + 16 * (c.toNat / 16) + c.toNat % 16 = c.toNat by omega] at unit
    have spelled := Quotation.unit unit (by omega) more
    rwa [Char.ofNat_toNat] at spelled
  · rename_i quote backslash _ _ _ _ _ graphic
    exact .plain (Nat.not_lt.1 graphic) quote backslash more

theorem Quotation.print (chars : List Char) (rest : Source) :
    Quotation chars ((chars.flatMap Json.escaped).map some ++ some '"' :: rest) rest := by
  induction chars with
  | nil => exact .quote
  | cons c more ih =>
      rw [List.flatMap_cons, List.map_append, List.append_assoc]
      exact ih.escaped c

end Strings

/-! ### Documents without numbers -/

mutual

/-- Whether a document has no numbers in it. -/
def isNumberFree : Json → Bool
  | .number _ => false
  | .array items => allNumberFree items
  | .object members => allMembersNumberFree members
  | _ => true

/-- Whether the items of an array have no numbers in them. -/
def allNumberFree : List Json → Bool
  | [] => true
  | item :: rest => isNumberFree item && allNumberFree rest

/-- Whether the members of an object have no numbers in them. -/
def allMembersNumberFree : List (String × Json) → Bool
  | [] => true
  | (_, value) :: rest => isNumberFree value && allMembersNumberFree rest

end

/-! ### Printed documents -/

mutual

/-- What is printed for a document spells it, whatever follows. -/
theorem spells_print : (document : Json) → document.isNumberFree = true → (rest : Source) →
    Spells (.value document) ((print document).map some ++ rest) rest
  | .null, _, _ => .null
  | .bool true, _, _ => .yes
  | .bool false, _, _ => .no
  | .text s, _, rest => by
      have quoted := Quotation.print s.toList rest
      simpa [print, quotedText] using Spells.text quoted
  | .array [], _, _ => .emptyArray .none
  | .array (item :: more), free, rest => by
      obtain ⟨freeItem, freeMore⟩ : item.isNumberFree = true ∧ allNumberFree more = true := by
        simpa [isNumberFree, allNumberFree] using free
      exact .array (spells_printItems more freeMore (spells_print item freeItem) rest)
  | .object [], _, _ => .emptyObject .none
  | .object ((name, value) :: more), free, rest => by
      obtain ⟨freeValue, freeMore⟩ :
          value.isNumberFree = true ∧ allMembersNumberFree more = true := by
        simpa [isNumberFree, allMembersNumberFree] using free
      have inner := spells_printMembers more freeMore name (spells_print value freeValue) rest
      simpa [print] using Spells.object inner

/-- What is printed for an item and for the items behind it spells all of them. -/
theorem spells_printItems : (items : List Json) → allNumberFree items = true → {item : Json} →
    (∀ rest, Spells (.value item) ((print item).map some ++ rest) rest) → (rest : Source) →
    Spells (.items (item :: items)) ((print item ++ printItems items).map some ++ rest)
      (some ']' :: rest)
  | [], _, item, first, rest => by
      have last := Spells.lastItem (.padded .none (first (some ']' :: rest)) .none)
      simpa [printItems] using last
  | next :: more, free, item, first, rest => by
      obtain ⟨freeNext, freeMore⟩ : next.isNumberFree = true ∧ allNumberFree more = true := by
        simpa [allNumberFree] using free
      have others := spells_printItems more freeMore (spells_print next freeNext) rest
      have all := Spells.item (.padded .none (first _) .none) others
      simpa [printItems] using all

/-- What is printed for a member and for the members behind it spells all of them. -/
theorem spells_printMembers : (members : List (String × Json)) →
    allMembersNumberFree members = true → (name : String) → {value : Json} →
    (∀ rest, Spells (.value value) ((print value).map some ++ rest) rest) → (rest : Source) →
    Spells (.members ((name, value) :: members))
      ((quotedText name ++ ':' :: (print value ++ printMembers members)).map some ++ rest)
      (some '\x7d' :: rest)
  | [], _, name, value, first, rest => by
      have last := Spells.lastMember (.member .none (.print name.toList _) .none
        (.padded .none (first (some '\x7d' :: rest)) .none))
      simpa [printMembers, quotedText] using last
  | (second, next) :: more, free, name, value, first, rest => by
      obtain ⟨freeNext, freeMore⟩ :
          next.isNumberFree = true ∧ allMembersNumberFree more = true := by
        simpa [allMembersNumberFree] using free
      have others := spells_printMembers more freeMore second (spells_print next freeNext) rest
      have all := Spells.members (.member .none (.print name.toList _) .none
        (.padded .none (first _) .none)) others
      simpa [printMembers, quotedText] using all

end

/-- What is printed for a document is a text of it. -/
theorem isTextOf_print {document : Json} (free : document.isNumberFree = true) :
    IsTextOf (.ofBytes (ItemStore.Text.utf8 document.print)) document := by
  have spelled := spells_print document free []
  rw [List.append_nil] at spelled
  rw [ItemStore.Text.Source.ofBytes_utf8]
  exact .padded .none spelled .none

/-- The text of a document is read as the outline of the document, and as nothing else. -/
theorem read_print {document : Json} (free : document.isNumberFree = true) :
    Outline.read (.ofBytes (ItemStore.Text.utf8 document.print)) =
      ⟨Outline.ofJson document, true⟩ :=
  isTextOf_iff_read.1 (isTextOf_print free)

end ItemStore.Json
