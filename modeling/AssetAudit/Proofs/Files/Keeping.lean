import AssetAudit.Proofs.Files.Alike

namespace AssetAudit.FileTree

/-! What is added to a disk does not change what a path to an old entry gives. -/

variable {tree wider : FileTree} {here there base directory : Location} {root : String}
  {names : Location}

theorem Keeps.foldlM_step (keeps : tree.Keeps wider) {parts : List String}
    (reached : parts.foldlM tree.step here = .ok there) :
    parts.foldlM wider.step here = .ok there := by
  induction parts generalizing here with
  | nil => exact reached
  | cons part rest ih =>
      rw [List.foldlM_cons] at reached ⊢
      cases moved : tree.step here part with
      | error failure =>
          rw [moved] at reached
          cases reached
      | ok next =>
          have around := (step_eq_ok moved).1
          have same : wider.step here part = tree.step here part := by
            rw [step, step, around, keeps here _ around]
          rw [moved] at reached
          rw [same, moved]
          exact ih reached

theorem Keeps.locate (keeps : tree.Keeps wider) (located : tree.locate directory root = .ok base) :
    wider.locate directory root = .ok base := by
  have reached := keeps.foldlM_step (locate_eq_ok located).2
  unfold FileTree.locate at located ⊢
  rw [reached]
  split at located
  · cases located
  · split at located
    · cases located
    · split at located
      · cases located
      · simp_all

theorem Keeps.alike (keeps : tree.Keeps wider) (proper : tree.IsProper) (nonempty : names ≠ [])
    {entry : Entry} (member : (base ++ names, entry) ∈ tree.entries) :
    Alike tree wider base base names where
  nonempty := nonempty
  proper := fun name among => proper.named _ member name (List.mem_append_right _ among)
  gone := rfl
  same := by
    intro before start
    apply keeps.entry?_eq
    rw [contains, proper.entry?_on_way member start]
    rfl

end AssetAudit.FileTree
