import ItemStore.NameMap

/-!
# ItemStore.Value.Tree

The trees that attribute values are made of.

A tree has a constructor for each attribute type. Its maps are bare lists of entries, so a tree may
be out of order; `Tree.Canonical` says that none of its maps is. `ItemStore.Value.Basic` packages
the canonical trees as attribute values.
-/

namespace ItemStore

/-- The types of attribute values. -/
inductive AttributeType
  | text
  | number
  | binary
  | texts
  | numbers
  | binaries
  | bool
  | null
  | list
  | map
deriving DecidableEq, Repr

namespace AttributeType

/-- The key that names a type in the written form of a value. -/
def key : AttributeType → String
  | .text => "S"
  | .number => "N"
  | .binary => "B"
  | .texts => "SS"
  | .numbers => "NS"
  | .binaries => "BS"
  | .bool => "BOOL"
  | .null => "NULL"
  | .list => "L"
  | .map => "M"

/-- All types. -/
def all : List AttributeType :=
  [.text, .number, .binary, .texts, .numbers, .binaries, .bool, .null, .list, .map]

/-- The keys of all types. -/
def keys : List String := all.map key

/-- The type with a key. -/
def ofKey? (name : String) : Option AttributeType := all.find? fun type => type.key == name

@[simp] theorem ofKey?_key (type : AttributeType) : ofKey? type.key = some type := by
  cases type <;> decide

end AttributeType

/-- A tree of attribute values. -/
inductive Tree
  | text (s : String)
  /-- A number, kept as text so that no digit is lost. -/
  | number (digits : String)
  /-- Binary data. -/
  | binary (bytes : List UInt8)
  /-- A set of texts. -/
  | texts (items : List String)
  /-- A set of numbers, kept as texts. -/
  | numbers (items : List String)
  /-- A set of binary data. -/
  | binaries (items : List (List UInt8))
  /-- A truth value. -/
  | bool (b : Bool)
  /-- The null marker; stores accept only the true one. -/
  | null (b : Bool)
  | list (items : List Tree)
  | map (entries : List (String × Tree))

namespace Tree

instance : Inhabited Tree := ⟨.null true⟩

/-- The type of a tree. -/
def type : Tree → AttributeType
  | .text _ => .text
  | .number _ => .number
  | .binary _ => .binary
  | .texts _ => .texts
  | .numbers _ => .numbers
  | .binaries _ => .binaries
  | .bool _ => .bool
  | .null _ => .null
  | .list _ => .list
  | .map _ => .map

/-! ### Order -/

mutual

/-- Every map in the tree has its entries in increasing order of their names. -/
def Canonical : Tree → Prop
  | .list items => AllCanonical items
  | .map entries => Entries.Ordered entries ∧ EntriesCanonical entries
  | _ => True

/-- Every tree of a list is canonical. -/
def AllCanonical : List Tree → Prop
  | [] => True
  | item :: rest => Canonical item ∧ AllCanonical rest

/-- The tree of every entry is canonical. -/
def EntriesCanonical : List (String × Tree) → Prop
  | [] => True
  | (_, tree) :: rest => Canonical tree ∧ EntriesCanonical rest

end

theorem allCanonical_iff {items : List Tree} :
    AllCanonical items ↔ ∀ item ∈ items, Canonical item := by
  induction items with
  | nil => simp [AllCanonical]
  | cons item rest ih => simp [AllCanonical, ih]

theorem entriesCanonical_iff {entries : List (String × Tree)} :
    EntriesCanonical entries ↔ ∀ entry ∈ entries, Canonical entry.2 := by
  induction entries with
  | nil => simp [EntriesCanonical]
  | cons entry rest ih => obtain ⟨name, tree⟩ := entry; simp [EntriesCanonical, ih]

/-- Inserting canonical trees into a canonical map leaves it canonical. -/
theorem entriesCanonical_insert {name : String} {tree : Tree} {entries : List (String × Tree)}
    (h : Canonical tree) (hs : EntriesCanonical entries) :
    EntriesCanonical (Entries.insert name tree entries) := by
  rw [entriesCanonical_iff] at hs ⊢
  intro entry mem
  rcases Entries.mem_insert mem with rfl | mem
  · exact h
  · exact hs entry mem

/-- Collecting canonical trees gives a canonical map. -/
theorem entriesCanonical_foldl_insert (pairs : List (String × Tree))
    {entries : List (String × Tree)} (h : EntriesCanonical pairs) (hs : EntriesCanonical entries) :
    EntriesCanonical
      (pairs.foldl (fun entries pair => Entries.insert pair.1 pair.2 entries) entries) := by
  induction pairs generalizing entries with
  | nil => exact hs
  | cons pair rest ih => exact ih h.2 (entriesCanonical_insert h.1 hs)

theorem canonical_map_ofList {pairs : List (String × Tree)} (h : EntriesCanonical pairs) :
    Canonical (.map (Entries.ofList pairs)) :=
  ⟨Entries.ordered_ofList pairs, entriesCanonical_foldl_insert pairs h trivial⟩

/-! ### Equality -/

mutual

/-- Whether two trees are the same. -/
def same : Tree → Tree → Bool
  | .text a, .text b => a == b
  | .number a, .number b => a == b
  | .binary a, .binary b => a == b
  | .texts a, .texts b => a == b
  | .numbers a, .numbers b => a == b
  | .binaries a, .binaries b => a == b
  | .bool a, .bool b => a == b
  | .null a, .null b => a == b
  | .list a, .list b => sameItems a b
  | .map a, .map b => sameEntries a b
  | _, _ => false

/-- Whether two lists hold the same trees. -/
def sameItems : List Tree → List Tree → Bool
  | [], [] => true
  | a :: as, b :: bs => same a b && sameItems as bs
  | _, _ => false

/-- Whether two lists hold the same names and trees. -/
def sameEntries : List (String × Tree) → List (String × Tree) → Bool
  | [], [] => true
  | (n, a) :: as, (m, b) :: bs => n == m && same a b && sameEntries as bs
  | _, _ => false

end

mutual

theorem same_iff : (a b : Tree) → same a b = true ↔ a = b
  | .text _, b => by cases b <;> simp [same]
  | .number _, b => by cases b <;> simp [same]
  | .binary _, b => by cases b <;> simp [same]
  | .texts _, b => by cases b <;> simp [same]
  | .numbers _, b => by cases b <;> simp [same]
  | .binaries _, b => by cases b <;> simp [same]
  | .bool _, b => by cases b <;> simp [same]
  | .null _, b => by cases b <;> simp [same]
  | .list as, b => by cases b <;> simp [same, sameItems_iff as]
  | .map as, b => by cases b <;> simp [same, sameEntries_iff as]

theorem sameItems_iff : (as bs : List Tree) → sameItems as bs = true ↔ as = bs
  | [], bs => by cases bs <;> simp [sameItems]
  | a :: as, bs => by cases bs <;> simp [sameItems, same_iff a, sameItems_iff as]

theorem sameEntries_iff : (as bs : List (String × Tree)) → sameEntries as bs = true ↔ as = bs
  | [], bs => by cases bs <;> simp [sameEntries]
  | (n, a) :: as, bs => by
      cases bs with
      | nil => simp [sameEntries]
      | cons b bs =>
        obtain ⟨m, b⟩ := b
        simp [sameEntries, same_iff a, sameEntries_iff as]

end

instance : DecidableEq Tree := fun a b => decidable_of_iff _ (same_iff a b)

end Tree

end ItemStore
