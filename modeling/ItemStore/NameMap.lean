/-!
# ItemStore.NameMap

Finite maps from names to values. Items, placeholder tables and JSON objects read as maps are all
of this shape.

Design points:

* A map is its list of entries in **strictly increasing order of the names**, so each map has one
  representation and equality of maps is plain equality.
* Names are ordered by code point, which is also the order of their UTF-8 bytes.
* The operations on bare entry lists (`Entries`) are separate from the type that carries the order
  (`NameMap`): attribute values nest maps inside an inductive type, which can hold the former only.
-/

namespace ItemStore

universe u v

/-! ### Entry lists -/

namespace Entries

variable {α : Type u} {β : Type v}

/-- The names of the entries strictly increase. -/
def Ordered (entries : List (String × α)) : Prop :=
  entries.Pairwise (fun a b => a.1 < b.1)

instance (entries : List (String × α)) : Decidable (Ordered entries) :=
  inferInstanceAs (Decidable (List.Pairwise _ _))

/-- Gives `name` the value `value`, in place of any value it has, keeping the order. -/
def insert (name : String) (value : α) : List (String × α) → List (String × α)
  | [] => [(name, value)]
  | (n, v) :: rest =>
      if name < n then (name, value) :: (n, v) :: rest
      else if name = n then (name, value) :: rest
      else (n, v) :: insert name value rest

/-- The value of the first entry called `name`. -/
def find? (name : String) : List (String × α) → Option α
  | [] => none
  | (n, v) :: rest => if name = n then some v else find? name rest

/-- The ordered entries of a list of pairs; of pairs with one name the last counts. -/
def ofList (pairs : List (String × α)) : List (String × α) :=
  pairs.foldl (fun entries pair => insert pair.1 pair.2 entries) []

theorem ordered_nil : Ordered ([] : List (String × α)) := List.Pairwise.nil

theorem mem_insert {name : String} {value : α} {p : String × α} {entries : List (String × α)}
    (h : p ∈ insert name value entries) : p = (name, value) ∨ p ∈ entries := by
  induction entries with
  | nil => simpa [insert] using h
  | cons e rest ih =>
    obtain ⟨n, v⟩ := e
    unfold insert at h
    split at h
    · simpa using h
    · split at h
      · rcases List.mem_cons.1 h with h | h
        · exact .inl h
        · exact .inr (List.mem_cons_of_mem _ h)
      · rcases List.mem_cons.1 h with h | h
        · exact .inr (h ▸ List.mem_cons_self)
        · rcases ih h with h | h
          · exact .inl h
          · exact .inr (List.mem_cons_of_mem _ h)

theorem ordered_insert {name : String} {value : α} {entries : List (String × α)}
    (h : Ordered entries) : Ordered (insert name value entries) := by
  induction entries with
  | nil => simp [insert, Ordered]
  | cons e rest ih =>
    obtain ⟨n, v⟩ := e
    obtain ⟨below, tail⟩ := List.pairwise_cons.1 h
    unfold insert
    split
    · rename_i lt
      refine List.pairwise_cons.2 ⟨fun p hp => ?_, h⟩
      rcases List.mem_cons.1 hp with hp | hp
      · exact hp ▸ lt
      · exact String.lt_trans lt (below p hp)
    · split
      · rename_i eq
        exact List.pairwise_cons.2 ⟨fun p hp => eq ▸ below p hp, tail⟩
      · rename_i not_lt ne
        refine List.pairwise_cons.2 ⟨fun p hp => ?_, ih tail⟩
        rcases mem_insert hp with hp | hp
        · subst hp
          exact Decidable.byContradiction fun not_gt => ne (String.le_antisymm not_gt not_lt)
        · exact below p hp

theorem ordered_foldl_insert (pairs : List (String × α)) {entries : List (String × α)}
    (h : Ordered entries) :
    Ordered (pairs.foldl (fun entries pair => insert pair.1 pair.2 entries) entries) := by
  induction pairs generalizing entries with
  | nil => exact h
  | cons p ps ih => exact ih (ordered_insert h)

theorem ordered_ofList (pairs : List (String × α)) : Ordered (ofList pairs) :=
  ordered_foldl_insert pairs ordered_nil

/-- A name above all names of a list goes behind them. -/
theorem insert_of_forall_lt {name : String} {entries : List (String × α)}
    (h : ∀ entry ∈ entries, entry.1 < name) (value : α) :
    insert name value entries = entries ++ [(name, value)] := by
  induction entries with
  | nil => rfl
  | cons e rest ih =>
    obtain ⟨n, v⟩ := e
    have below : n < name := h (n, v) List.mem_cons_self
    have ne : name ≠ n := fun eq => String.lt_irrefl n (eq ▸ below)
    have others := ih fun entry mem => h entry (List.mem_cons_of_mem _ mem)
    rw [insert, if_neg (String.lt_asymm below), if_neg ne, others, List.cons_append]

/-- Ordered entries are collected as they are. -/
theorem ofList_of_ordered {entries : List (String × α)} (h : Ordered entries) :
    ofList entries = entries := by
  have collect : ∀ more before : List (String × α), Ordered (before ++ more) →
      more.foldl (fun entries pair => insert pair.1 pair.2 entries) before = before ++ more := by
    intro more
    induction more with
    | nil => simp
    | cons pair rest ih =>
      intro before ordered
      have below : ∀ entry ∈ before, entry.1 < pair.1 := fun entry mem =>
        (List.pairwise_append.1 ordered).2.2 entry mem pair List.mem_cons_self
      rw [List.foldl_cons, insert_of_forall_lt below, ih _ (by simpa using ordered)]
      simp
  exact collect entries [] h

/-- The order looks at the names alone. -/
theorem ordered_iff_names {entries : List (String × α)} :
    Ordered entries ↔ (entries.map Prod.fst).Pairwise (· < ·) :=
  List.pairwise_map.symm

/-- Giving each name another value keeps the order. -/
theorem ordered_map {f : α → β} {entries : List (String × α)} (h : Ordered entries) :
    Ordered (entries.map fun entry => (entry.1, f entry.2)) :=
  List.pairwise_map.2 h

/-- An inserted name has the inserted value, and the others keep theirs. -/
theorem find?_insert {n name : String} {value : α} {entries : List (String × α)} :
    find? n (insert name value entries) = if n = name then some value else find? n entries := by
  induction entries with
  | nil => rfl
  | cons e rest ih =>
    obtain ⟨m, v⟩ := e
    unfold insert
    split
    · rfl
    · split
      · rename_i eq
        subst eq
        by_cases h : n = name <;> simp [find?, h]
      · rename_i ne
        by_cases h : n = m
        · subst h
          simp [find?, Ne.symm ne]
        · simp [find?, h, ih]

/-- A name below all names of a list has no value in it. -/
theorem find?_eq_none_of_lt {name : String} {entries : List (String × α)}
    (h : ∀ entry ∈ entries, name < entry.1) : find? name entries = none := by
  induction entries with
  | nil => rfl
  | cons e rest ih =>
    have lt := h e List.mem_cons_self
    have ne : name ≠ e.1 := fun eq => String.lt_irrefl e.1 (eq ▸ lt)
    simp [find?, ne, ih fun entry mem => h entry (List.mem_cons_of_mem _ mem)]

/-- Ordered lists in which every name has the same value are equal. -/
theorem ext_find? {left right : List (String × α)} (hl : Ordered left) (hr : Ordered right)
    (h : ∀ name, find? name left = find? name right) : left = right := by
  induction left generalizing right with
  | nil =>
    cases right with
    | nil => rfl
    | cons e rest => simpa [find?] using h e.1
  | cons e rest ih =>
    obtain ⟨n, v⟩ := e
    obtain ⟨belowLeft, tailLeft⟩ := List.pairwise_cons.1 hl
    cases right with
    | nil => simpa [find?] using h n
    | cons f others =>
      obtain ⟨m, w⟩ := f
      obtain ⟨belowRight, tailRight⟩ := List.pairwise_cons.1 hr
      have absent : ∀ {a b : String} {x : α} {xs : List (String × α)}, a < b →
          (∀ entry ∈ xs, b < entry.1) → find? a ((b, x) :: xs) = none := fun lt below =>
        find?_eq_none_of_lt fun entry mem => by
          rcases List.mem_cons.1 mem with rfl | mem
          · exact lt
          · exact String.lt_trans lt (below entry mem)
      have same : n = m := by
        refine String.le_antisymm (fun lt => ?_) (fun lt => ?_)
        · have := h m
          rw [absent lt belowLeft] at this
          simp [find?] at this
        · have := h n
          rw [absent lt belowRight] at this
          simp [find?] at this
      subst same
      have value : v = w := by simpa [find?] using h n
      subst value
      congr 1
      refine ih tailLeft tailRight fun name => ?_
      by_cases eq : name = n
      · rw [eq, find?_eq_none_of_lt belowLeft, find?_eq_none_of_lt belowRight]
      · simpa [find?, eq] using h name

/-- The names that have a value are those of the entries. -/
theorem find?_isSome_iff {name : String} {entries : List (String × α)} :
    (find? name entries).isSome ↔ name ∈ entries.map Prod.fst := by
  induction entries with
  | nil => simp [find?]
  | cons e rest ih =>
    by_cases h : name = e.1
    · simp [find?, h]
    · simp [find?, h, ih]

/-- Giving names other values, or none, keeps the order of those that are left. -/
theorem ordered_filterMap {f : α → Option β} {entries : List (String × α)} (h : Ordered entries) :
    Ordered (entries.filterMap fun entry => (f entry.2).map (entry.1, ·)) := by
  refine List.pairwise_filterMap.2 (h.imp fun {a b} lt c hc d hd => ?_)
  obtain ⟨_, _, rfl⟩ := Option.map_eq_some_iff.1 hc
  obtain ⟨_, _, rfl⟩ := Option.map_eq_some_iff.1 hd
  exact lt

end Entries

/-! ### Maps -/

/-- A finite map from names to values of type `α`. -/
structure NameMap (α : Type u) where
  /-- The entries, in increasing order of their names. -/
  entries : List (String × α)
  /-- The order, which makes the representation unique. -/
  ordered : Entries.Ordered entries
deriving DecidableEq

namespace NameMap

variable {α : Type u} {β : Type v}

/-- The map with no entries. -/
def empty : NameMap α := ⟨[], Entries.ordered_nil⟩

instance : EmptyCollection (NameMap α) := ⟨empty⟩
instance : Inhabited (NameMap α) := ⟨empty⟩

/-- Gives `name` the value `value`, in place of any value it has. -/
def insert (map : NameMap α) (name : String) (value : α) : NameMap α :=
  ⟨Entries.insert name value map.entries, Entries.ordered_insert map.ordered⟩

/-- The value of `name`, if it has one. -/
def find? (map : NameMap α) (name : String) : Option α := Entries.find? name map.entries

/-- Whether `name` has a value. -/
def contains (map : NameMap α) (name : String) : Bool := (map.find? name).isSome

/-- Whether no name has a value. -/
def isEmpty (map : NameMap α) : Bool := map.entries.isEmpty

/-- The number of names that have a value. -/
def size (map : NameMap α) : Nat := map.entries.length

/-- The names that have a value, in increasing order. -/
def names (map : NameMap α) : List String := map.entries.map Prod.fst

/-- Inserts the pairs from left to right, so that of pairs with one name the last counts. -/
def insertAll (map : NameMap α) (pairs : List (String × α)) : NameMap α :=
  ⟨pairs.foldl (fun entries pair => Entries.insert pair.1 pair.2 entries) map.entries,
    Entries.ordered_foldl_insert pairs map.ordered⟩

/-- The map of a list of pairs; of pairs with one name the last counts. -/
def ofList (pairs : List (String × α)) : NameMap α := empty.insertAll pairs

/-- Gives each name what `f` makes of its value; names for which `f` makes nothing are dropped. -/
def filterMap (map : NameMap α) (f : α → Option β) : NameMap β :=
  ⟨map.entries.filterMap fun entry => (f entry.2).map (entry.1, ·),
    Entries.ordered_filterMap map.ordered⟩

/-- The map with one entry. -/
def singleton (name : String) (value : α) : NameMap α := empty.insert name value

@[simp] theorem insertAll_nil (map : NameMap α) : map.insertAll [] = map := rfl

@[simp] theorem insertAll_cons (map : NameMap α) (name : String) (value : α)
    (pairs : List (String × α)) :
    map.insertAll ((name, value) :: pairs) = (map.insert name value).insertAll pairs := rfl

theorem insertAll_append (map : NameMap α) (pairs more : List (String × α)) :
    map.insertAll (pairs ++ more) = (map.insertAll pairs).insertAll more := by
  induction pairs generalizing map with
  | nil => rfl
  | cons pair rest ih => exact ih (map.insert pair.1 pair.2)

@[simp] theorem find?_empty (name : String) : (∅ : NameMap α).find? name = none := rfl

/-- An inserted name has the inserted value, and the others keep theirs. -/
theorem find?_insert (map : NameMap α) (n name : String) (value : α) :
    (map.insert name value).find? n = if n = name then some value else map.find? n :=
  Entries.find?_insert

@[simp] theorem find?_insert_self (map : NameMap α) (name : String) (value : α) :
    (map.insert name value).find? name = some value := by
  simp [find?_insert]

/-- Names that are not among the inserted pairs keep their values. -/
theorem find?_insertAll_of_not_mem {name : String} {pairs : List (String × α)}
    (h : name ∉ pairs.map Prod.fst) (map : NameMap α) :
    (map.insertAll pairs).find? name = map.find? name := by
  induction pairs generalizing map with
  | nil => rfl
  | cons pair rest ih =>
    obtain ⟨n, value⟩ := pair
    rw [List.map_cons, List.mem_cons, not_or] at h
    rw [insertAll_cons, ih h.2, find?_insert, if_neg h.1]

/-- A name that pairs give one value, once or several times, has this value behind them. -/
theorem find?_insertAll_of_mem {name : String} {value : α} {pairs : List (String × α)}
    (mem : name ∈ pairs.map Prod.fst) (same : ∀ pair ∈ pairs, pair.1 = name → pair.2 = value)
    (map : NameMap α) : (map.insertAll pairs).find? name = some value := by
  induction pairs generalizing map with
  | nil => exact absurd mem List.not_mem_nil
  | cons pair rest ih =>
    obtain ⟨n, v⟩ := pair
    obtain ⟨first, others⟩ := List.forall_mem_cons.1 same
    rw [insertAll_cons]
    by_cases later : name ∈ rest.map Prod.fst
    · exact ih later others _
    · have now : name = n := (List.mem_cons.1 mem).resolve_right later
      have given : v = value := first now.symm
      rw [find?_insertAll_of_not_mem later, find?_insert, if_pos now, given]

@[simp] theorem contains_empty (name : String) : (∅ : NameMap α).contains name = false := rfl

theorem contains_insert (map : NameMap α) (n name : String) (value : α) :
    (map.insert name value).contains n = (n == name || map.contains n) := by
  by_cases h : n = name <;> simp [contains, find?_insert, h]

/-- The names that have a value are those of the pairs and those that had one before. -/
theorem contains_insertAll (map : NameMap α) (pairs : List (String × α)) (name : String) :
    (map.insertAll pairs).contains name = true ↔
      name ∈ pairs.map Prod.fst ∨ map.contains name = true := by
  induction pairs generalizing map with
  | nil => simp
  | cons pair rest ih =>
    obtain ⟨n, v⟩ := pair
    rw [insertAll_cons, ih, contains_insert, Bool.or_eq_true, beq_iff_eq, List.map_cons,
      List.mem_cons, or_assoc]
    exact or_left_comm

/-- What is collected is empty only if there is nothing to collect. -/
theorem isEmpty_ofList_iff {pairs : List (String × α)} :
    (ofList pairs).isEmpty = true ↔ pairs = [] := by
  constructor
  · intro empty
    cases pairs with
    | nil => rfl
    | cons pair rest =>
        have inside : (ofList (pair :: rest)).contains pair.1 = true := by
          rw [ofList, contains_insertAll]
          simp
        rw [contains, find?, List.isEmpty_iff.1 empty] at inside
        cases inside
  · intro nothing
    rw [nothing]
    rfl

theorem mem_names_iff {map : NameMap α} {name : String} :
    name ∈ map.names ↔ map.contains name = true :=
  Entries.find?_isSome_iff.symm

@[simp] theorem length_names (map : NameMap α) : map.names.length = map.size := by
  simp [names, size]

/-- Maps in which every name has the same value are equal. -/
theorem ext_find? {left right : NameMap α} (h : ∀ name, left.find? name = right.find? name) :
    left = right := by
  obtain ⟨entries, ordered⟩ := left
  obtain ⟨others, orderedOthers⟩ := right
  have : entries = others := Entries.ext_find? ordered orderedOthers h
  subst this
  rfl

end NameMap

/-! ### Sets of names -/

/-- A finite set of names. -/
abbrev NameSet := NameMap Unit

namespace NameSet

/-- The set with the names of `names` added. -/
def addAll (set : NameSet) (names : List String) : NameSet :=
  NameMap.insertAll set (names.map (·, ()))

/-- The set with `name` added. -/
def add (set : NameSet) (name : String) : NameSet := NameMap.insert set name ()

theorem contains_add (set : NameSet) (n name : String) :
    (set.add name).contains n = (n == name || set.contains n) :=
  NameMap.contains_insert set n name ()

end NameSet

end ItemStore
