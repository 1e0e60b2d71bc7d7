import Mathlib

/-!
# ItemStore.Proofs.FirstOccurrences

Lists in which each element is kept at its first occurrence only, as they grow at their end.
-/

namespace ItemStore

variable {α β : Type} [DecidableEq α] [DecidableEq β]

/-- An element behind a list stays when repetitions are erased, unless the list has it. -/
theorem eraseDups_concat (l : List α) (a : α) :
    (l ++ [a]).eraseDups = l.eraseDups ++ if a ∈ l then [] else [a] := by
  rw [List.eraseDups_append]
  by_cases h : a ∈ l <;> simp [List.removeAll, List.eraseDups_cons, h]

theorem nodup_eraseDups (l : List α) : l.eraseDups.Nodup := by
  induction l using List.reverseRecOn with
  | nil => exact List.nodup_nil
  | append_singleton l a ih =>
      rw [eraseDups_concat]
      split
      · rwa [List.append_nil]
      · rename_i new
        exact List.nodup_append.2 ⟨ih, List.nodup_singleton a, fun b mem c single eq =>
          new (List.mem_singleton.1 single ▸ eq ▸ List.mem_eraseDups.1 mem)⟩

/-- Which of two equal elements is erased does not depend on the others. -/
theorem filter_eraseDups (p : α → Bool) (l : List α) :
    l.eraseDups.filter p = (l.filter p).eraseDups := by
  induction l using List.reverseRecOn with
  | nil => rfl
  | append_singleton l a ih =>
      rw [eraseDups_concat, List.filter_append, List.filter_append, ih]
      by_cases h : p a = true
      · rw [List.filter_cons_of_pos h, List.filter_nil, eraseDups_concat]
        by_cases mem : a ∈ l
        · rw [if_pos mem, if_pos (List.mem_filter.2 ⟨mem, h⟩), List.filter_nil]
        · rw [if_neg mem, if_neg fun both => mem (List.mem_filter.1 both).1,
            List.filter_cons_of_pos h, List.filter_nil]
      · rw [List.filter_cons_of_neg h, List.filter_nil, List.append_nil]
        split
        · rw [List.filter_nil, List.append_nil]
        · rw [List.filter_cons_of_neg h, List.filter_nil, List.append_nil]

theorem map_eraseDups {f : α → β} (h : Function.Injective f) (l : List α) :
    l.eraseDups.map f = (l.map f).eraseDups := by
  induction l using List.reverseRecOn with
  | nil => rfl
  | append_singleton l a ih =>
      rw [eraseDups_concat, List.map_append, List.map_append, ih, List.map_singleton,
        eraseDups_concat]
      by_cases mem : a ∈ l
      · rw [if_pos mem, if_pos (List.mem_map_of_mem mem), List.map_nil]
      · rw [if_neg mem, if_neg (mt (List.mem_map_of_injective h).1 mem), List.map_singleton]

end ItemStore
