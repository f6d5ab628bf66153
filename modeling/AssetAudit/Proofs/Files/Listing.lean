import AssetAudit.Files.Tree

namespace AssetAudit.FileTree

/-! What is directly in a directory. -/

variable {tree : FileTree}

theorem relativeTo_eq_some {directory place names : Location} :
    relativeTo directory place = some names ↔ place = directory ++ names := by
  unfold relativeTo
  constructor
  · intro found
    split at found
    · rename_i within
      obtain ⟨rest, rfl⟩ := List.isPrefixOf_iff_prefix.mp within
      simpa using found
    · cases found
  · intro equal
    simp [equal]

theorem childOf?_eq_some {directory : Location} {listed : Location × Entry}
    {child : String × Entry} :
    childOf? directory listed = some child ↔ listed = (directory ++ [child.1], child.2) := by
  obtain ⟨location, entry⟩ := listed
  obtain ⟨name, kind⟩ := child
  unfold childOf?
  constructor
  · intro found
    split at found
    · rename_i relative
      obtain ⟨rfl, rfl⟩ := Prod.mk.inj (Option.some.inj found)
      exact Prod.ext (relativeTo_eq_some.mp relative) rfl
    · cases found
  · intro equal
    obtain ⟨rfl, rfl⟩ := Prod.mk.inj equal
    have relative : relativeTo directory (directory ++ [name]) = some [name] :=
      relativeTo_eq_some.mpr rfl
    simp [relative]

theorem mem_children {directory : Location} {child : String × Entry} :
    child ∈ tree.children directory ↔ (directory ++ [child.1], child.2) ∈ tree.entries := by
  simp only [children, List.mem_filterMap, childOf?_eq_some, exists_eq_right]

theorem mem_namesIn {directory : Location} {name : String} :
    name ∈ tree.namesIn directory ↔ ∃ entry, (directory ++ [name], entry) ∈ tree.entries := by
  unfold namesIn Text.sorted
  simp only [List.mem_mergeSort, List.mem_map, Prod.exists, mem_children, exists_and_right,
    exists_eq_right]

theorem nodup_childNames (distinct : (tree.entries.map Prod.fst).Nodup) (directory : Location) :
    ((tree.children directory).map Prod.fst).Nodup := by
  rw [List.Nodup, List.pairwise_map] at distinct ⊢
  refine distinct.filterMap _ fun first second different child found other listed same => ?_
  rw [childOf?_eq_some.mp found, childOf?_eq_some.mp listed, same] at different
  exact different rfl

theorem namesIn_nodup (distinct : (tree.entries.map Prod.fst).Nodup) (directory : Location) :
    (tree.namesIn directory).Nodup :=
  (List.mergeSort_perm _ _).nodup_iff.mpr (nodup_childNames distinct directory)

end AssetAudit.FileTree
