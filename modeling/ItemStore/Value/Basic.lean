import ItemStore.Decimal.Layout
import ItemStore.Text.Quoted
import ItemStore.Value.Tree

/-!
# ItemStore.Value.Basic

Attribute values and items.

A `Value` is a canonical tree: values that hold the same are equal. Values are built with the
functions below, which take maps in any order and keep the last entry of each name.
-/

namespace ItemStore

/-- An attribute value. -/
structure Value where
  tree : Tree
  /-- All maps in it are in order. -/
  canonical : tree.Canonical
deriving DecidableEq

/-- An item, or a key: attribute names with their values. -/
abbrev Item := NameMap Value

namespace Value

/-! ### Building values -/

/-- A text. -/
def text (s : String) : Value := ⟨.text s, trivial⟩

/-- A number, by the text that spells it. -/
def number (digits : String) : Value := ⟨.number digits, trivial⟩

/-- An integer. -/
def ofInt (n : Int) : Value := number (toString n)

/-- A floating-point number, in the fewest digits that single it out and with all its places. -/
def ofFloating (x : Decimal.Floating) : Value := number (x.text .plain)

/-- Binary data. -/
def binary (bytes : List UInt8) : Value := ⟨.binary bytes, trivial⟩

/-- A set of texts. -/
def texts (items : List String) : Value := ⟨.texts items, trivial⟩

/-- A set of numbers. -/
def numbers (items : List String) : Value := ⟨.numbers items, trivial⟩

/-- A set of binary data. -/
def binaries (items : List (List UInt8)) : Value := ⟨.binaries items, trivial⟩

/-- A truth value. -/
def bool (b : Bool) : Value := ⟨.bool b, trivial⟩

/-- The null marker that stores accept. -/
def null : Value := ⟨.null true, trivial⟩

/-- A list of values. -/
def list (items : List Value) : Value where
  tree := .list (items.map tree)
  canonical := Tree.allCanonical_iff.2 fun tree mem => by
    obtain ⟨item, _, rfl⟩ := List.mem_map.1 mem
    exact item.canonical

/-- A map of values. -/
def map (item : Item) : Value where
  tree := .map (item.entries.map fun entry => (entry.1, entry.2.tree))
  canonical := by
    refine ⟨Entries.ordered_map item.ordered, Tree.entriesCanonical_iff.2 fun entry mem => ?_⟩
    obtain ⟨pair, _, rfl⟩ := List.mem_map.1 mem
    exact pair.2.canonical

instance : Inhabited Value := ⟨null⟩

/-! ### Looking at values -/

/-- The type of a value. -/
def type (value : Value) : AttributeType := value.tree.type

/--
Whether a store treats a value as empty: an empty text, empty binary data, or a set, list or map
without members. Numbers, truth values and null markers never are.
-/
def isEmpty (value : Value) : Bool :=
  match value.tree with
  | .text s => s.isEmpty
  | .binary bytes => bytes.isEmpty
  | .texts items => items.isEmpty
  | .numbers items => items.isEmpty
  | .binaries items => items.isEmpty
  | .list items => items.isEmpty
  | .map entries => entries.isEmpty
  | .number _ => false
  | .bool _ => false
  | .null _ => false

/-- Whether a value is the null marker that stores accept. -/
def isNull (value : Value) : Bool :=
  match value.tree with
  | .null b => b
  | _ => false

/-- The text of a text value. -/
def text? (value : Value) : Option String :=
  match value.tree with
  | .text s => some s
  | _ => none

/-- The text that spells the number of a number value. -/
def number? (value : Value) : Option String :=
  match value.tree with
  | .number digits => some digits
  | _ => none

/-- Canonical trees as values. -/
private def entriesOf : (entries : List (String × Tree)) → Tree.EntriesCanonical entries →
    List (String × Value)
  | [], _ => []
  | (name, tree) :: rest, h => (name, ⟨tree, h.1⟩) :: entriesOf rest h.2

private theorem names_entriesOf : (entries : List (String × Tree)) →
    (h : Tree.EntriesCanonical entries) →
    (entriesOf entries h).map Prod.fst = entries.map Prod.fst
  | [], _ => rfl
  | (name, _) :: rest, h => congrArg (name :: ·) (names_entriesOf rest h.2)

/-- The item of a map value. -/
def map? (value : Value) : Option Item :=
  match value with
  | ⟨.map entries, canonical⟩ =>
      some ⟨entriesOf entries canonical.2, by
        rw [Entries.ordered_iff_names, names_entriesOf]
        exact Entries.ordered_iff_names.1 canonical.1⟩
  | _ => none

/-- A short description: the type, and the value itself or how much it holds. -/
def describe (value : Value) : String :=
  let content := match value.tree with
    | .text s => s
    | .number digits => digits
    | .binary bytes => s!"{bytes.length} bytes"
    | .texts items => Text.quotedList items
    | .numbers items => Text.quotedList items
    | .binaries items => s!"{items.length} items"
    | .bool b => if b then "true" else "false"
    | .null b => if b then "true" else "false"
    | .list items => s!"{items.length} items"
    | .map entries => s!"{entries.length} keys"
  "\x7b" ++ value.type.key ++ ": " ++ content ++ "\x7d"

end Value

end ItemStore
