import AssetAudit.Proofs.Files.Alike
import AssetAudit.Proofs.Files.Joining
import AssetAudit.Proofs.Outcome

namespace AssetAudit.FileTree

/-! Places that cannot be asked about because the way to them is too long. -/

variable {tree : FileTree} {here place names rest : Location} {name : String}

/-- Directories lead from here along the names to one that is too long. -/
def MeetsLongName (tree : FileTree) (here names : Location) : Prop :=
  ∃ above name, above ++ [name] <+: names ∧
    (∀ before, before <+: above → tree.isDirectory (here ++ before) = true) ∧
      maxNameBytes < name.utf8ByteSize

def IsOverlong (tree : FileTree) (place : Location) : Prop :=
  maxPathBytes < place.text.utf8ByteSize ∨ tree.MeetsLongName [] place

theorem not_meetsLongName_nil : ¬ tree.MeetsLongName here [] := by
  rintro ⟨above, name, on, -⟩
  simp at on

theorem meetsLongName_cons :
    tree.MeetsLongName here (name :: rest) ↔ tree.isDirectory here = true ∧
      (maxNameBytes < name.utf8ByteSize ∨ tree.MeetsLongName (here ++ [name]) rest) := by
  constructor
  · rintro ⟨above, long, on, directories, tooLong⟩
    refine ⟨by simpa using directories [] List.nil_prefix, ?_⟩
    cases above with
    | nil =>
        obtain rfl : long = name := by simpa using on
        exact Or.inl tooLong
    | cons first above =>
        obtain ⟨rfl, within⟩ := List.cons_prefix_cons.mp on
        refine Or.inr ⟨above, long, within, fun before start => ?_, tooLong⟩
        simpa using directories (first :: before) (List.cons_prefix_cons.mpr ⟨rfl, start⟩)
  · rintro ⟨directory, tooLong | ⟨above, long, within, directories, tooLong⟩⟩
    · refine ⟨[], name, by simp, fun before start => ?_, tooLong⟩
      rwa [List.prefix_nil.mp start, List.append_nil]
    · refine ⟨name :: above, long, by simpa using within, fun before start => ?_, tooLong⟩
      rcases List.prefix_cons_iff.mp start with rfl | ⟨tail, rfl, inside⟩
      · rwa [List.append_nil]
      · simpa using directories tail inside

theorem step_eq_nameTooLong (present : here.isGone = false) :
    tree.step here name = .error .nameTooLong ↔
      tree.isDirectory here = true ∧ maxNameBytes < name.utf8ByteSize := by
  unfold step
  split
  · rename_i absent
    simp [isDirectory, absent]
  · rename_i file
    simp [isDirectory, file]
  · rename_i directory
    simp [isDirectory, directory, present]

theorem foldlM_step_eq_nameTooLong (present : here.isGone = false)
    (proper : ∀ name ∈ names, IsProperName name) :
    names.foldlM tree.step here = .error .nameTooLong ↔ tree.MeetsLongName here names := by
  induction names generalizing here with
  | nil => exact iff_of_false (fun failed => by cases failed) not_meetsLongName_nil
  | cons name rest ih =>
      obtain ⟨named, properRest⟩ := List.forall_mem_cons.mp proper
      have presentNext : Location.isGone (here ++ [name]) = false := by
        rw [Location.isGone_append, present,
          IsProperName.isGone_eq_false (List.forall_mem_singleton.mpr named)]
        rfl
      rw [List.foldlM_cons, bind_eq_error, step_eq_nameTooLong present, meetsLongName_cons]
      constructor
      · rintro (⟨directory, long⟩ | ⟨there, moved, later⟩)
        · exact ⟨directory, Or.inl long⟩
        · obtain ⟨directory, rfl⟩ := step_eq_ok moved
          rw [Location.move_proper named, ih presentNext properRest] at later
          exact ⟨isDirectory_iff.mpr directory, Or.inr later⟩
      · rintro ⟨directory, later⟩
        by_cases long : maxNameBytes < name.utf8ByteSize
        · exact Or.inl ⟨directory, long⟩
        · have moved : tree.step here name = .ok (here ++ [name]) := by
            simp [step, isDirectory_iff.mp directory, long, Location.move_proper named]
          exact Or.inr ⟨_, moved, (ih presentNext properRest).mpr (later.resolve_left long)⟩

/-- Every name takes a slash and at least one byte. -/
theorem length_le_byteSize_text (proper : ∀ name ∈ place, IsProperName name) :
    2 * place.length ≤ place.text.utf8ByteSize := by
  induction place using List.reverseRecOn with
  | nil => simp
  | append_singleton above name ih =>
      obtain ⟨properAbove, named⟩ := List.forall_mem_append.mp proper
      have shorter := ih properAbove
      have filled : name.utf8ByteSize ≠ 0 := by
        simpa using (named name List.mem_cons_self).nonempty
      have slash : "/".utf8ByteSize = 1 := rfl
      cases above with
      | nil =>
          simp [Location.text, slash]
          omega
      | cons first rest =>
          have grown := relativePath_concat (List.cons_ne_nil first rest) name
          rw [relativePath, relativePath] at grown
          simp only [Location.text, grown, String.utf8ByteSize_append, List.length_append,
            List.length_singleton, slash] at shorter ⊢
          omega

theorem isOverlong_of_deep (proper : ∀ name ∈ place, IsProperName name)
    (deep : maxPathBytes < 2 * place.length) : tree.IsOverlong place :=
  Or.inl (deep.trans_le (length_le_byteSize_text proper))

theorem stepsOf_text (nonempty : place ≠ []) (proper : ∀ name ∈ place, IsProperName name) :
    stepsOf place.text = place := by
  have steps : stepsOf ("" ++ "/" ++ relativePath place) = namingParts "" ++ place :=
    stepsOf_append (pathParts_relativePath nonempty proper) nonempty proper
  rwa [String.empty_append] at steps

/-- The length of a place is in the way just if the place is overlong. -/
theorem locate_text_eq_nameTooLong (nonempty : place ≠ [])
    (proper : ∀ name ∈ place, IsProperName name) (nulFree : ∀ name ∈ place, '\x00' ∉ name.toList) :
    tree.locate [] place.text = .error .nameTooLong ↔ tree.IsOverlong place := by
  have plain : place.text.toList.contains '\x00' = false := by
    have within := nulFree_intercalate nulFree
    simpa [Location.toList_text] using within
  have shown : place.text.isEmpty = false := by simp [Location.text]
  have absolute : isAbsolutePath place.text = true := by
    simp [isAbsolutePath, Location.toList_text]
  unfold locate IsOverlong
  rw [plain, shown, absolute, stepsOf_text nonempty proper]
  by_cases long : maxPathBytes < place.text.utf8ByteSize
  · have unfit : fits place.text = false := decide_eq_false (Nat.not_le.mpr long)
    simp [unfit, long]
  · have fit : fits place.text = true := decide_eq_true (Nat.not_lt.mp long)
    simp only [fit, long, Bool.not_true, Bool.false_eq_true, if_false, if_true, false_or]
    exact foldlM_step_eq_nameTooLong rfl proper

end AssetAudit.FileTree
