import AssetAudit.Project.Survey
import AssetAudit.Proofs.Files.Alike

namespace AssetAudit

/-! Texts, images and image sets of a project read the same on two disks as long as both hold the
same on the way to their files. -/

theorem mapM_congr {first second : α → Except ε β} {items : List α}
    (same : ∀ item ∈ items, first item = second item) : items.mapM first = items.mapM second := by
  induction items with
  | nil => rfl
  | cons item rest ih =>
      rw [List.mapM_cons, List.mapM_cons, same item (by simp),
        ih fun other among => same other (List.mem_cons_of_mem item among)]

open FileTree

section Alike

variable {workspace other : Workspace} {root : String} {base otherBase names : Location}
  (located : workspace.files.locate workspace.directory root = .ok base)
  (otherLocated : other.files.locate other.directory root = .ok otherBase)
  (alike : Alike workspace.files other.files base otherBase names)

include located otherLocated

section File

include alike

theorem readText_alike :
    other.readText (joinPaths root (relativePath names)) =
      workspace.readText (joinPaths root (relativePath names)) := by
  unfold Workspace.readText
  rw [alike.content located otherLocated]

theorem readSource_alike (category : Category) :
    readSource other root (relativePath names) category =
      readSource workspace root (relativePath names) category := by
  rw [readSource, readSource, readText_alike located otherLocated alike]

namespace AssetReading

theorem ofFile_alike (format : ImageFormat) (name : String) (kind : AssetKind) (scale : Int)
    (catalogGroup : Option String) :
    ofFile other root (relativePath names) format name kind scale catalogGroup =
      ofFile workspace root (relativePath names) format name kind scale catalogGroup := by
  unfold ofFile ImageFormat.metadata? imageMetadata isInterlacedAt?
  simp only [alike.content located otherLocated, alike.byteSize located otherLocated]

theorem standalone?_alike :
    standalone? other root (relativePath names) =
      standalone? workspace root (relativePath names) := by
  unfold standalone?
  simp only [ofFile_alike located otherLocated alike]

end AssetReading

end File

theorem AssetReading.variant?_alike {fileName : String} (groupNonempty : names ≠ [])
    (alike : Alike workspace.files other.files base otherBase (names ++ [fileName]))
    (scales : Manifest) :
    variant? other root (relativePath names) scales fileName =
      variant? workspace root (relativePath names) scales fileName := by
  unfold variant?
  simp only [← relativePath_concat groupNonempty, ofFile_alike located otherLocated alike]

theorem Manifest.read_alike (groupNonempty : names ≠ [])
    (alike : Alike workspace.files other.files base otherBase (names ++ [Manifest.fileName])) :
    Manifest.read other (joinPaths root (relativePath names)) =
      Manifest.read workspace (joinPaths root (relativePath names)) := by
  rw [Manifest.read, Manifest.read,
    joinPaths_joinPaths (locate_eq_ok located).1 groupNonempty alike.proper,
    readText_alike located otherLocated alike]

include alike

/-- An image set reads the same when its manifest and its files do. -/
theorem GroupReading.read_alike
    (manifest : Alike workspace.files other.files base otherBase (names ++ [Manifest.fileName]))
    (inside : other.files.namesIn (otherBase ++ names) = workspace.files.namesIn (base ++ names))
    (files : ∀ fileName ∈ workspace.files.namesIn (base ++ names),
      Alike workspace.files other.files base otherBase (names ++ [fileName])) :
    GroupReading.read other root (relativePath names) =
      GroupReading.read workspace root (relativePath names) := by
  unfold GroupReading.read
  simp only [Manifest.read_alike located otherLocated alike.nonempty manifest,
    alike.list located otherLocated inside]
  cases Manifest.read workspace (joinPaths root (relativePath names)) with
  | error problem => rfl
  | ok scales =>
      cases listed : workspace.files.list workspace.directory
          (joinPaths root (relativePath names)) with
      | error failure => rfl
      | ok fileNames =>
          have variants : fileNames.mapM
              (AssetReading.variant? other root (relativePath names) scales) =
                fileNames.mapM
                  (AssetReading.variant? workspace root (relativePath names) scales) := by
            apply mapM_congr
            intro fileName member
            rw [list_below located alike.nonempty alike.proper listed] at member
            exact AssetReading.variant?_alike located otherLocated alike.nonempty
              (files fileName member) scales
          simp only [variants]

end Alike

/-- Two inventories are the same if they are of the same images and image sets, which read the
same. -/
theorem Inventory.read_congr {workspace other : Workspace} {tree otherTree : SourceTree}
    (root : otherTree.root = tree.root) (images : otherTree.imagePaths = tree.imagePaths)
    (groups : otherTree.catalogGroups = tree.catalogGroups)
    (alone : ∀ path ∈ tree.imagePaths, AssetReading.standalone? other tree.root path =
      AssetReading.standalone? workspace tree.root path)
    (grouped : ∀ group ∈ tree.catalogGroups, GroupReading.read other tree.root group =
      GroupReading.read workspace tree.root group) :
    Inventory.read other otherTree = Inventory.read workspace tree := by
  have sameGroups : tree.catalogGroups.mapM (fun group => do
        return (group, ← GroupReading.read other tree.root group)) =
      tree.catalogGroups.mapM (fun group => do
        return (group, ← GroupReading.read workspace tree.root group)) :=
    mapM_congr fun group member =>
      congrArg (fun reading => do return (group, ← reading)) (grouped group member)
  unfold Inventory.read
  rw [root, images, groups, mapM_congr alone, sameGroups]

end AssetAudit
