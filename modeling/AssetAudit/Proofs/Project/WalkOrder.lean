import AssetAudit.Project.SourceTree
import AssetAudit.Proofs.Files.Listing
import AssetAudit.Proofs.Text.CanonicalSet

namespace AssetAudit

/-! A walk meets the files and the directories of a tree in one order only.  What it comes to is
therefore determined by the places alone, not by the order in which the disk lists them. -/

/-- The order of the files on a walk: those of a directory come before those of its subdirectories,
and both ascend by name. -/
def WalksBefore : Location → Location → Prop
  | [file], [other] => file < other
  | [_], _ :: _ :: _ => True
  | directory :: inner :: below, other :: innerOther :: belowOther =>
      directory < other ∨
        directory = other ∧ WalksBefore (inner :: below) (innerOther :: belowOther)
  | _, _ => False

theorem WalksBefore.asymm {first second : Location} (forth : WalksBefore first second) :
    ¬ WalksBefore second first := by
  induction first generalizing second with
  | nil => cases second <;> cases forth
  | cons name rest ih =>
      intro back
      match rest, second, forth, back with
      | [], [other], less, greater => exact String.lt_asymm less greater
      | [], _ :: _ :: _, _, back => exact back
      | inner :: below, other :: innerOther :: belowOther, forth, back =>
          rcases forth with less | ⟨rfl, inside⟩
          · rcases back with greater | ⟨same, _⟩
            · exact String.lt_asymm less greater
            · exact String.lt_irrefl other (same ▸ less)
          · rcases back with greater | ⟨_, outside⟩
            · exact String.lt_irrefl name greater
            · exact ih inside outside

/-- Below one directory the rest of the places decides. -/
theorem WalksBefore.append {first second : Location} (before : WalksBefore first second)
    (directory : Location) : WalksBefore (directory ++ first) (directory ++ second) := by
  induction directory with
  | nil => exact before
  | cons name rest ih =>
      rw [List.cons_append, List.cons_append]
      match rest ++ first, rest ++ second, ih with
      | _ :: _, _ :: _, inside => exact Or.inr ⟨rfl, inside⟩
      | [_], [], inside => exact inside.elim
      | _ :: _ :: _, [], inside => exact inside.elim

end AssetAudit
