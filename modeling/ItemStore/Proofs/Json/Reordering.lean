import Mathlib
import ItemStore.Proofs.Json.Arranged

/-!
# ItemStore.Proofs.Json.Reordering

Documents that differ in the order of members only.
-/

namespace ItemStore

namespace Json

/--
Whether two documents differ in the order of members only, which may be another at any depth. No
object in them has a name twice.
-/
inductive Reorders : Json → Json → Prop
  | null : Reorders .null .null
  | bool (b : Bool) : Reorders (.bool b) (.bool b)
  | number (n : Number) : Reorders (.number n) (.number n)
  | text (s : String) : Reorders (.text s) (.text s)
  | array (pairs : List (Json × Json)) (each : ∀ pair ∈ pairs, Reorders pair.1 pair.2) :
      Reorders (.array (pairs.map Prod.fst)) (.array (pairs.map Prod.snd))
  | object (pairs : List (String × Json × Json)) {others : List (String × Json)}
      (names : (pairs.map Prod.fst).Nodup) (each : ∀ pair ∈ pairs, Reorders pair.2.1 pair.2.2)
      (perm : others.Perm (pairs.map fun pair => (pair.1, pair.2.2))) :
      Reorders (.object (pairs.map fun pair => (pair.1, pair.2.1))) (.object others)

/-- Documents that differ in the order of members only say the same. -/
theorem Reorders.canonical_eq {document other : Json} (h : document.Reorders other) :
    document.canonical = other.canonical := by
  induction h with
  | null => rfl
  | bool b => rfl
  | number n => rfl
  | text s => rfl
  | array pairs each ih =>
      rw [canonical_array, canonical_array, List.map_map, List.map_map]
      exact congrArg Json.array (List.map_congr_left ih)
  | object pairs names each perm ih =>
      have said : (pairs.map fun pair => (pair.1, pair.2.1)).map
            (fun member => (member.1, member.2.canonical)) =
          (pairs.map fun pair => (pair.1, pair.2.2)).map
            (fun member => (member.1, member.2.canonical)) := by
        rw [List.map_map, List.map_map]
        exact List.map_congr_left fun pair mem => congrArg (pair.1, ·) (ih pair mem)
      have distinct : (((pairs.map fun pair => (pair.1, pair.2.2)).map
          (fun member => (member.1, member.2.canonical))).map Prod.fst).Nodup := by
        rw [List.map_map, List.map_map]
        exact names
      rw [canonical_object, canonical_object, said, Entries.ofList_eq_of_perm (perm.map _) distinct]

end Json

end ItemStore
