import Mathlib
import ItemStore.Proofs.Runs

/-!
# ItemStore.Proofs.NameMap

What names have in a collected map: each name has the value of the last pair with this name.
-/

namespace ItemStore

variable {α β : Type}

namespace Entries

/-- The value of the last pair with a name. -/
def last? (pairs : List (String × α)) (name : String) : Option α :=
  (pairs.filterMap fun pair => if pair.1 = name then some pair.2 else none).getLast?

theorem last?_cons (pair : String × α) (rest : List (String × α)) (name : String) :
    last? (pair :: rest) name =
      (last? rest name).or (if pair.1 = name then some pair.2 else none) :=
  getLast?_filterMap_cons _ pair rest

theorem last?_map (f : α → β) (pairs : List (String × α)) (name : String) :
    last? (pairs.map fun pair => (pair.1, f pair.2)) name = (last? pairs name).map f := by
  unfold last?
  rw [List.filterMap_map, ← List.getLast?_map, List.map_filterMap]
  congr 1
  refine List.filterMap_congr fun pair _ => ?_
  simp only [Function.comp_apply]
  split <;> rfl

/-- The last value of a name stands among the pairs. -/
theorem mem_of_last? {pairs : List (String × α)} {name : String} {value : α}
    (h : last? pairs name = some value) : (name, value) ∈ pairs := by
  obtain ⟨⟨n, v⟩, mem, is⟩ := List.mem_filterMap.1 (List.mem_of_getLast? h)
  obtain ⟨rfl, same⟩ := Option.ite_none_right_eq_some.1 is
  cases same
  exact mem

/-- Without the pairs of one name, the others have the values that they had. -/
theorem last?_filter_ne (pairs : List (String × α)) (without name : String) :
    last? (pairs.filter fun pair => pair.1 ≠ without) name =
      if name = without then none else last? pairs name := by
  induction pairs with
  | nil => simp [last?]
  | cons pair rest ih =>
      rw [last?_cons]
      by_cases dropped : pair.1 = without
      · rw [List.filter_cons_of_neg (by simpa using dropped), ih]
        split
        · rfl
        · rename_i other
          rw [if_neg fun same => other (same.symm.trans dropped), Option.or_none]
      · rw [List.filter_cons_of_pos (by simpa using dropped), last?_cons, ih]
        split
        · rename_i same
          rw [if_neg fun is => dropped (is.trans same), Option.or_none]
        · rfl

/-- Inserted pairs give each name its last value; other names keep what they have. -/
theorem find?_foldl_insert (pairs entries : List (String × α)) (name : String) :
    find? name (pairs.foldl (fun entries pair => insert pair.1 pair.2 entries) entries) =
      (last? pairs name).or (find? name entries) := by
  induction pairs generalizing entries with
  | nil => rfl
  | cons pair rest ih =>
      rw [List.foldl_cons, ih, find?_insert, last?_cons, Option.or_assoc]
      by_cases same : name = pair.1
      · simp [same]
      · simp [same, Ne.symm same]

theorem find?_ofList (pairs : List (String × α)) (name : String) :
    find? name (ofList pairs) = last? pairs name :=
  (find?_foldl_insert pairs [] name).trans Option.or_none

/-- The entries of a map are its names with the values that they have. -/
theorem mem_iff_find? {entries : List (String × α)} (ordered : Ordered entries) {name : String}
    {value : α} : (name, value) ∈ entries ↔ find? name entries = some value := by
  induction entries with
  | nil => simp [find?]
  | cons entry rest ih =>
      obtain ⟨n, v⟩ := entry
      obtain ⟨below, tail⟩ := List.pairwise_cons.1 ordered
      rw [List.mem_cons, Prod.mk.injEq, find?]
      by_cases same : name = n
      · have absent : (name, value) ∉ rest := fun mem =>
          String.lt_irrefl n (same ▸ below _ mem)
        simp [same, same ▸ absent, eq_comm]
      · simp [same, ih tail]

/-- What is collected is among the pairs. -/
theorem mem_of_mem_ofList {pairs : List (String × α)} {entry : String × α}
    (mem : entry ∈ ofList pairs) : entry ∈ pairs :=
  mem_of_last? ((find?_ofList pairs entry.1).symm.trans
    ((mem_iff_find? (ordered_ofList pairs)).1 mem))

end Entries

namespace NameMap

theorem find?_ofList (pairs : List (String × α)) (name : String) :
    (ofList pairs).find? name = Entries.last? pairs name :=
  Entries.find?_ofList pairs name

theorem mem_entries_iff {map : NameMap α} {name : String} {value : α} :
    (name, value) ∈ map.entries ↔ map.find? name = some value :=
  Entries.mem_iff_find? map.ordered

theorem find?_filterMap (map : NameMap α) (f : α → Option β) (name : String) :
    (map.filterMap f).find? name = (map.find? name).bind f := by
  ext value
  rw [← mem_entries_iff, filterMap, List.mem_filterMap, Option.bind_eq_some_iff]
  constructor
  · rintro ⟨⟨n, v⟩, mem, made⟩
    obtain ⟨w, is, same⟩ := Option.map_eq_some_iff.1 made
    obtain ⟨rfl, rfl⟩ := Prod.mk.inj same
    exact ⟨v, mem_entries_iff.1 mem, is⟩
  · rintro ⟨v, has, made⟩
    exact ⟨(name, v), mem_entries_iff.2 has, by rw [made]; rfl⟩

end NameMap

end ItemStore
