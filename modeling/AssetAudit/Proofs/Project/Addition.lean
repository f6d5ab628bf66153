import AssetAudit.Proofs.Files.Keeping
import AssetAudit.Proofs.Project.Reading
import AssetAudit.Proofs.Project.Walk

namespace AssetAudit

/-! A text file that is added to a project leaves its images as they are, and to its sources adds
only itself. -/

open FileTree

/-- A new text file of a project, in no hidden directory and in no catalog. -/
structure TextAddition (workspace : Workspace) (root : String)
    (fallbackExtensions : List String) where
  base : Location
  /-- The place seen from the directory of the project. -/
  place : Location
  content : List UInt8
  category : Category
  text : List Char
  located : workspace.files.locate workspace.directory root = .ok base
  named : ∀ name ∈ place, IsProperName name
  fresh : workspace.files.contains (base ++ place) = false
  considered : isConsidered place = true
  recognised : SourceTree.textAt? fallbackExtensions place = some (relativePath place, category)
  decoded : decodeText content = .ok text

/-- One tree of a project has the images of another one and at most one text more. -/
structure SourceTree.GrowsBy (tree wider : SourceTree) (text : String × Category) : Prop where
  root : wider.root = tree.root
  images : wider.imagePaths = tree.imagePaths
  groups : wider.catalogGroups = tree.catalogGroups
  bundleImages : wider.bundleImages = tree.bundleImages
  keeps : ∀ known ∈ tree.textPaths, known ∈ wider.textPaths
  onlyAdds : ∀ known ∈ wider.textPaths, known ∈ tree.textPaths ∨ known = text

namespace TextAddition

variable {workspace : Workspace} {root : String} {fallbackExtensions : List String}
  (addition : TextAddition workspace root fallbackExtensions)

def files : FileTree := workspace.files.write (addition.base ++ addition.place) addition.content

/-- The disk with the new file. -/
def applied : Workspace := { workspace with files := addition.files }

def source : SourceFile :=
  ⟨relativePath addition.place, addition.category, String.ofList addition.text⟩

theorem keeps : workspace.files.Keeps addition.files := keeps_write addition.fresh addition.content

theorem notImage : isAssetFile (fileNameOf addition.place) = false := by
  cases image : isAssetFile (fileNameOf addition.place) with
  | false => rfl
  | true =>
      have recognised := addition.recognised
      rw [SourceTree.textAt?, if_pos image] at recognised
      cases recognised

theorem no_catalog_above {name : String} (above : name ∈ addition.place.dropLast) :
    isCatalog name = false := by
  have considered := List.all_eq_true.mp addition.considered name above
  simpa using (Bool.and_eq_true_iff.mp considered).2

theorem not_isCatalogGroup {directory : Location} (above : directory <+: addition.place.dropLast) :
    isCatalogGroup directory = false := by
  have none : directory.any isCatalog = false := by
    rw [List.any_eq_false]
    intro name member
    simpa using addition.no_catalog_above (above.subset member)
  simp [isCatalogGroup, none]

theorem nonempty (directory : workspace.files.isDirectory addition.base = true) :
    addition.place ≠ [] := by
  intro empty
  have fresh := addition.fresh
  rw [empty, List.append_nil, contains, isDirectory_iff.mp directory] at fresh
  cases fresh

section Walk

/-- What the new tree holds beside the old one is the new file and directories above it. -/
theorem mem_files (nonempty : addition.place ≠ []) {names : Location} {entry : Entry}
    (member : (addition.base ++ names, entry) ∈ addition.files.entries) :
    (addition.base ++ names, entry) ∈ workspace.files.entries ∨
      names = addition.place ∧ entry = .file addition.content ∨
      names <+: addition.place.dropLast ∧ entry = .directory := by
  rcases mem_write addition.fresh member with old | ⟨same, file⟩ | ⟨above, directory⟩
  · exact Or.inl old
  · exact Or.inr (Or.inl ⟨List.append_cancel_left same, file⟩)
  · rw [List.dropLast_append_of_ne_nil nonempty] at above
    exact Or.inr (Or.inr ⟨(List.prefix_append_right_inj addition.base).mp above, directory⟩)

theorem entries_kept : ∀ entry ∈ workspace.files.entries, entry ∈ addition.files.entries :=
  fun _ => mem_write_of_mem addition.fresh addition.content

variable (proper : workspace.files.IsProper) (rootNonempty : root ≠ "")
  (nonempty : addition.place ≠ [])

include proper rootNonempty nonempty

theorem old_or_added {place : Location}
    (member : place ∈ filesOutsideCatalogs (addition.files.walk root addition.base)) :
    place ∈ filesOutsideCatalogs (workspace.files.walk root addition.base) ∨
      place = addition.place := by
  obtain ⟨directory, name, content, rfl, listed, entered, outside⟩ :=
    mem_filesOutsideCatalogs.mp member
  rw [List.append_assoc] at listed
  rcases addition.mem_files nonempty listed with old | ⟨same, _⟩ | ⟨_, other⟩
  · rw [← List.append_assoc] at old
    have enteredBefore : workspace.files.Entered root addition.base directory :=
      proper.entered rootNonempty (fun below => proper.parent_mem old (by simp [below]))
        entered.visible entered.walkable
    exact Or.inl (mem_filesOutsideCatalogs.mpr
      ⟨directory, name, content, rfl, old, enteredBefore, outside⟩)
  · exact Or.inr same
  · cases other

theorem images_same :
    (filesOutsideCatalogs (addition.files.walk root addition.base)).filter
        (fun location => isAssetFile (fileNameOf location)) =
      (filesOutsideCatalogs (workspace.files.walk root addition.base)).filter
        fun location => isAssetFile (fileNameOf location) := by
  have distinct := distinct_write addition.fresh addition.content proper.distinct
  refine Text.eq_of_strict_order (fun _ _ => WalksBefore.asymm)
    ((filesOutsideCatalogs_ascending distinct).filter _)
    ((filesOutsideCatalogs_ascending proper.distinct).filter _) fun place => ?_
  simp only [List.mem_filter]
  constructor
  · intro found
    rcases addition.old_or_added proper rootNonempty nonempty found.1 with old | rfl
    · exact ⟨old, found.2⟩
    · exact absurd found.2 (by simp [addition.notImage])
  · intro found
    exact ⟨filesOutsideCatalogs_mono addition.entries_kept found.1, found.2⟩

theorem groups_same :
    ((addition.files.walk root addition.base).filter (·.isGroup)).map Visit.directory =
      ((workspace.files.walk root addition.base).filter (·.isGroup)).map Visit.directory := by
  have distinct := distinct_write addition.fresh addition.content proper.distinct
  refine Text.eq_of_strict_order (fun _ _ => List.lt_asymm) (groups_ascending distinct)
    (groups_ascending proper.distinct) fun directory => ?_
  constructor
  · intro found
    obtain ⟨entered, catalog, imageSet⟩ := mem_groups.mp found
    refine mem_groups.mpr ⟨proper.entered rootNonempty (fun below => ?_) entered.visible
      entered.walkable, catalog, imageSet⟩
    rcases addition.mem_files nonempty (entered.listed below) with old | ⟨_, file⟩ | ⟨above, _⟩
    · exact old
    · cases file
    · rw [List.any_eq_false.mpr fun name member => ?_] at catalog
      · cases catalog
      · simpa using addition.no_catalog_above (above.subset member)
  · exact groups_mono addition.entries_kept

theorem ofVisits_growsBy :
    (SourceTree.ofVisits root fallbackExtensions
        (workspace.files.walk root addition.base)).GrowsBy
      (SourceTree.ofVisits root fallbackExtensions (addition.files.walk root addition.base))
      (relativePath addition.place, addition.category) := by
  have images := addition.images_same proper rootNonempty nonempty
  have groups := congrArg (List.map relativePath)
    (addition.groups_same proper rootNonempty nonempty)
  simp only [List.map_map] at groups
  refine ⟨rfl, ?_, groups, ?_, ?_, ?_⟩
  · simp only [SourceTree.ofVisits, images]
  · simp only [SourceTree.ofVisits, images]
  · intro known member
    obtain ⟨location, among, read⟩ := List.mem_filterMap.mp member
    exact List.mem_filterMap.mpr
      ⟨location, filesOutsideCatalogs_mono addition.entries_kept among, read⟩
  · intro known member
    obtain ⟨location, among, read⟩ := List.mem_filterMap.mp member
    rcases addition.old_or_added proper rootNonempty nonempty among with old | rfl
    · exact Or.inl (List.mem_filterMap.mpr ⟨location, old, read⟩)
    · exact Or.inr (Option.some.inj (read.symm.trans addition.recognised))

end Walk

theorem scan (proper : workspace.files.IsProper) {tree : SourceTree}
    (scanned : SourceTree.scan workspace root fallbackExtensions = .ok tree) :
    ∃ wider, SourceTree.scan addition.applied root fallbackExtensions = .ok wider ∧
      tree.GrowsBy wider (relativePath addition.place, addition.category) := by
  obtain ⟨base, located, directory, placed, rfl⟩ := SourceTree.scan_eq_ok.mp scanned
  obtain rfl : addition.base = base := Except.ok.inj (addition.located.symm.trans located)
  refine ⟨_, SourceTree.scan_eq_ok.mpr ⟨addition.base, addition.keeps.locate located,
    addition.keeps.isDirectory directory, placed, rfl⟩, ?_⟩
  exact addition.ofVisits_growsBy proper (locate_eq_ok located).1 (addition.nonempty directory)

end TextAddition

end AssetAudit
