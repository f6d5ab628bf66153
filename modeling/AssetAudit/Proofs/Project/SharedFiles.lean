import AssetAudit.Proofs.Project.Inventory
import AssetAudit.Proofs.Project.Reading

namespace AssetAudit

/-! Two projects that share their images have one inventory, and two that share their texts have one
list of readings.  What else is in their directories does not matter. -/

open FileTree

/-- A directory of a tidy disk is at the end of a path. -/
structure Workspace.HasProject (workspace : Workspace) (root : String) (base : Location) : Prop where
  proper : workspace.files.IsProper
  located : workspace.files.locate workspace.directory root = .ok base
  directory : workspace.files.isDirectory base = true

/-- Two projects have the same file, or none, at a place. -/
def SharesFile (tree other : FileTree) (base otherBase place : Location) : Prop :=
  ∀ content, (base ++ place, Entry.file content) ∈ tree.entries ↔
    (otherBase ++ place, Entry.file content) ∈ other.entries

/-- Two projects have the same images outside all catalogs, and the same catalogs. -/
structure SharesImages (tree other : FileTree) (base otherBase : Location) : Prop where
  images : ∀ place, isConsidered place = true → isAssetFile (fileNameOf place) = true →
    SharesFile tree other base otherBase place
  catalogs : ∀ place, place.dropLast.any isCatalog = true → ∀ entry,
    (base ++ place, entry) ∈ tree.entries ↔ (otherBase ++ place, entry) ∈ other.entries

/-- Two projects have files at the same places.  Texts and manifests are the same on both. -/
structure SharesTexts (tree other : FileTree) (fallbackExtensions : List String)
    (base otherBase : Location) : Prop where
  paths : ∀ place, (∃ content, (base ++ place, Entry.file content) ∈ tree.entries) ↔
    ∃ content, (otherBase ++ place, Entry.file content) ∈ other.entries
  texts : ∀ place, isConsidered place = true →
    (SourceTree.textAt? fallbackExtensions place).isSome = true →
      SharesFile tree other base otherBase place
  manifests : ∀ place, isCatalogGroup place = true →
    SharesFile tree other base otherBase (place ++ [Manifest.fileName])

/-- Of the names of images in the manifest of an image set, the same ones are directories in two
projects. -/
def SharesImageDirectories (workspace other : Workspace) (root : String)
    (base otherBase : Location) : Prop :=
  ∀ place name scales scale, isCatalogGroup place = true → isAssetFile name = true →
    Manifest.read workspace (joinPaths root (relativePath place)) = .ok scales →
      Manifest.read other (joinPaths root (relativePath place)) = .ok scales →
        KeyedList.get? scales name = some scale →
          ((base ++ (place ++ [name]), Entry.directory) ∈ workspace.files.entries ↔
            (otherBase ++ (place ++ [name]), Entry.directory) ∈ other.files.entries)

theorem SharesTexts.symm {tree other : FileTree} {fallbackExtensions : List String}
    {base otherBase : Location} (shares : SharesTexts tree other fallbackExtensions base otherBase) :
    SharesTexts other tree fallbackExtensions otherBase base where
  paths place := (shares.paths place).symm
  texts place considered text content := (shares.texts place considered text content).symm
  manifests place group content := (shares.manifests place group content).symm

theorem SharesImageDirectories.symm {workspace other : Workspace} {root : String}
    {base otherBase : Location} (shares : SharesImageDirectories workspace other root base otherBase) :
    SharesImageDirectories other workspace root otherBase base :=
  fun place name scales scale group image manifest otherManifest given =>
    (shares place name scales scale group image otherManifest manifest given).symm

theorem not_isCatalog_of_isImageSet {name : String} (imageSet : isImageSet name = true) :
    isCatalog name = false := by
  refine Bool.eq_false_iff.mpr fun catalog => ?_
  -- both endings have nine letters
  have within : ".xcassets".toList <:+ ".imageset".toList :=
    List.suffix_of_suffix_length_le (List.isSuffixOf_iff_suffix.mp catalog)
      (List.isSuffixOf_iff_suffix.mp imageSet) (by decide)
  revert within
  decide

theorem isCatalogGroup_inside {place : Location} (group : isCatalogGroup place = true) :
    place.dropLast.any isCatalog = true := by
  simp only [isCatalogGroup, Bool.and_eq_true] at group
  obtain ⟨⟨-, catalog⟩, imageSet⟩ := group
  obtain ⟨above, name, rfl⟩ : ∃ above name, place = above ++ [name] := by
    refine ⟨_, _, (List.dropLast_append_getLast ?_).symm⟩
    rintro rfl
    cases catalog
  have last : isCatalog name = false := not_isCatalog_of_isImageSet (by simpa [fileNameOf] using imageSet)
  simpa [last] using catalog

section Projects

variable {workspace other : Workspace} {root : String} {base otherBase : Location}
  (project : workspace.HasProject root base) (otherProject : other.HasProject root otherBase)

include project

theorem Workspace.HasProject.scan_eq {fallbackExtensions : List String} {tree : SourceTree}
    (scanned : SourceTree.scan workspace root fallbackExtensions = .ok tree) :
    tree = .ofVisits root fallbackExtensions (workspace.files.walk root base) := by
  obtain ⟨place, located, -, -, same⟩ := SourceTree.scan_eq_ok.mp scanned
  obtain rfl := Except.ok.inj (project.located.symm.trans located)
  exact same

theorem Workspace.HasProject.classifies (fallbackExtensions : List String) :
    (SourceTree.ofVisits root fallbackExtensions (workspace.files.walk root base)).Classifies
      workspace.files root fallbackExtensions base :=
  SourceTree.classifies_ofVisits project.proper (locate_eq_ok project.located).1 project.directory

theorem Workspace.HasProject.mem_files {place : Location} :
    place ∈ filesOutsideCatalogs (workspace.files.walk root base) ↔
      IsOpenFile workspace.files root base place :=
  SourceTree.mem_openFiles project.proper (locate_eq_ok project.located).1 project.directory

include otherProject

/-- Of files at the same places both walks come to the same. -/
theorem filesOutsideCatalogs_eq (among : Location → Bool)
    (same : ∀ place, isConsidered place = true → among place = true →
      ((∃ content, (base ++ place, Entry.file content) ∈ workspace.files.entries) ↔
        ∃ content, (otherBase ++ place, Entry.file content) ∈ other.files.entries)) :
    (filesOutsideCatalogs (other.files.walk root otherBase)).filter among =
      (filesOutsideCatalogs (workspace.files.walk root base)).filter among := by
  refine Text.eq_of_strict_order (fun _ _ => WalksBefore.asymm)
    ((filesOutsideCatalogs_ascending otherProject.proper.distinct).filter _)
    ((filesOutsideCatalogs_ascending project.proper.distinct).filter _) fun place => ?_
  simp only [List.mem_filter, project.mem_files, otherProject.mem_files]
  refine and_congr_left fun meant => ?_
  constructor
  · intro file
    exact ⟨(same place file.considered meant).mpr file.listed, file.considered, file.walkable⟩
  · intro file
    exact ⟨(same place file.considered meant).mp file.listed, file.considered, file.walkable⟩

/-- Of image sets at the same places both walks come to the same. -/
theorem groups_eq
    (same : ∀ place, isCatalogGroup place = true →
      ((base ++ place, Entry.directory) ∈ workspace.files.entries ↔
        (otherBase ++ place, Entry.directory) ∈ other.files.entries)) :
    ((other.files.walk root otherBase).filter (·.isGroup)).map Visit.directory =
      ((workspace.files.walk root base).filter (·.isGroup)).map Visit.directory := by
  have rootNonempty := (locate_eq_ok project.located).1
  refine Text.eq_of_strict_order (fun _ _ => List.lt_asymm)
    (groups_ascending otherProject.proper.distinct) (groups_ascending project.proper.distinct)
    fun place => ?_
  rw [SourceTree.mem_openGroups project.proper rootNonempty,
    SourceTree.mem_openGroups otherProject.proper rootNonempty]
  constructor
  · intro group
    exact ⟨(same place group.isGroup).mpr group.listed, group.isGroup, group.walkable⟩
  · intro group
    exact ⟨(same place group.isGroup).mp group.listed, group.isGroup, group.walkable⟩

section Images

variable (shares : SharesImages workspace.files other.files base otherBase)

include shares

theorem standalone?_shared {place : Location} (file : IsOpenFile workspace.files root base place)
    (image : isAssetFile (fileNameOf place) = true) :
    AssetReading.standalone? other root (relativePath place) =
      AssetReading.standalone? workspace root (relativePath place) := by
  obtain ⟨content, listed⟩ := file.listed
  have otherListed := (shares.images place file.considered image content).mp listed
  exact AssetReading.standalone?_alike project.located otherProject.located
    (alike_of_listed project.proper otherProject.proper
      (file.nonempty project.proper project.directory) listed otherListed)

theorem groupReading_shared {place : Location}
    (group : IsOpenGroup workspace.files root base place) :
    GroupReading.read other root (relativePath place) =
      GroupReading.read workspace root (relativePath place) := by
  have within : ∀ name, (place ++ [name]).dropLast.any isCatalog = true := by
    intro name
    rw [List.dropLast_concat]
    exact group.inCatalog
  have around := alike_of_listed project.proper otherProject.proper group.nonempty group.listed
    ((shares.catalogs place (isCatalogGroup_inside group.isGroup) _).mp group.listed)
  have manifest := around.concat Manifest.isProperName
    (entry?_eq_of_listed project.proper otherProject.proper (by simp)
      (IsProperName.concat around.proper Manifest.isProperName) (shares.catalogs _ (within _)))
  refine GroupReading.read_alike project.located otherProject.located around manifest ?_ ?_
  · refine namesIn_eq_of_listed project.proper otherProject.proper fun name => ?_
    simp only [List.append_assoc]
    exact exists_congr (shares.catalogs _ (within name))
  · intro fileName inside
    obtain ⟨entry, listed⟩ := mem_namesIn.mp inside
    rw [List.append_assoc] at listed
    exact alike_of_listed project.proper otherProject.proper (by simp) listed
      ((shares.catalogs _ (within fileName) entry).mp listed)

/-- The inventory of a project depends on its images alone. -/
theorem inventory_shared (fallbackExtensions : List String) :
    Inventory.read other
        (.ofVisits root fallbackExtensions (other.files.walk root otherBase)) =
      Inventory.read workspace
        (.ofVisits root fallbackExtensions (workspace.files.walk root base)) := by
  have classifies := project.classifies fallbackExtensions
  have images := filesOutsideCatalogs_eq project otherProject
    (fun place => isAssetFile (fileNameOf place)) fun place considered image =>
      exists_congr (shares.images place considered image)
  have groups := groups_eq project otherProject fun place group =>
    shares.catalogs place (isCatalogGroup_inside group) .directory
  refine Inventory.read_congr rfl (congrArg (List.map relativePath) images) ?_ ?_ ?_
  · rw [SourceTree.catalogGroups_eq, SourceTree.catalogGroups_eq, groups]
  · intro path member
    obtain ⟨place, rfl, file, image⟩ := (classifies.images path).mp member
    exact standalone?_shared project otherProject shares file image
  · intro path member
    obtain ⟨place, rfl, group⟩ := (classifies.groups path).mp member
    exact groupReading_shared project otherProject shares group

end Images

section Texts

variable {fallbackExtensions : List String}
  (shares : SharesTexts workspace.files other.files fallbackExtensions base otherBase)

include shares

theorem files_shared :
    filesOutsideCatalogs (other.files.walk root otherBase) =
      filesOutsideCatalogs (workspace.files.walk root base) := by
  have same := filesOutsideCatalogs_eq project otherProject (fun _ => true)
    fun place _ _ => shares.paths place
  rwa [List.filter_true, List.filter_true] at same

theorem readSource_shared {place : Location} {category : Category}
    (file : IsOpenFile workspace.files root base place)
    (text : SourceTree.textAt? fallbackExtensions place = some (relativePath place, category)) :
    readSource other root (relativePath place) category =
      readSource workspace root (relativePath place) category := by
  obtain ⟨content, listed⟩ := file.listed
  have otherListed := (shares.texts place file.considered (by rw [text]; rfl) content).mp listed
  exact readSource_alike project.located otherProject.located
    (alike_of_listed project.proper otherProject.proper
      (file.nonempty project.proper project.directory) listed otherListed) category

/-- The readings of the texts depend on the texts alone. -/
theorem readTexts_shared :
    Survey.readTexts other
        (.ofVisits root fallbackExtensions (other.files.walk root otherBase)) =
      Survey.readTexts workspace
        (.ofVisits root fallbackExtensions (workspace.files.walk root base)) := by
  have paths : (SourceTree.ofVisits root fallbackExtensions
      (other.files.walk root otherBase)).textPaths =
        (SourceTree.ofVisits root fallbackExtensions (workspace.files.walk root base)).textPaths :=
    congrArg (List.filterMap _) (files_shared project otherProject shares)
  rw [Survey.readTexts, Survey.readTexts, paths]
  refine List.map_congr_left fun (path, category) member => ?_
  obtain ⟨place, rfl, file, noImage, recognised⟩ :=
    ((project.classifies fallbackExtensions).texts path category).mp (List.mem_mergeSort.mp member)
  exact congrArg (Prod.mk _) (readSource_shared project otherProject shares file
    (SourceTree.textAt?_eq_some.mpr ⟨rfl, noImage, recognised⟩))

end Texts

end Projects

end AssetAudit
