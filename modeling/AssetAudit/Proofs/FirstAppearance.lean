import Mathlib.Data.List.Induction
import Mathlib.Data.List.Nodup

namespace AssetAudit

/-! Items in the order of their first appearance, each once. -/

variable {α : Type} [DecidableEq α]

theorem eraseDups_concat (items : List α) (item : α) :
    (items ++ [item]).eraseDups =
      if item ∈ items then items.eraseDups else items.eraseDups ++ [item] := by
  rw [List.eraseDups_append]
  split
  · rename_i known
    simp [List.removeAll, known]
  · rename_i fresh
    simp [List.removeAll, fresh, List.eraseDups_cons]

theorem nodup_eraseDups (items : List α) : items.eraseDups.Nodup := by
  induction items using List.reverseRecOn with
  | nil => exact List.nodup_nil
  | append_singleton items item ih =>
      rw [eraseDups_concat]
      split
      · exact ih
      · rename_i fresh
        have absent : item ∉ items.eraseDups := fun member => fresh (List.mem_eraseDups.mp member)
        simpa using List.Nodup.concat absent ih

theorem eraseDups_append_eraseDups (items others : List α) :
    (items ++ others.eraseDups).eraseDups = (items ++ others).eraseDups := by
  induction others using List.reverseRecOn with
  | nil => rfl
  | append_singleton others other ih =>
      rw [← List.append_assoc, eraseDups_concat (items ++ others), eraseDups_concat others]
      by_cases known : other ∈ others
      · rw [if_pos known, if_pos (List.mem_append_right _ known), ih]
      · rw [if_neg known, ← List.append_assoc, eraseDups_concat, ih]
        simp [List.mem_eraseDups]

end AssetAudit
