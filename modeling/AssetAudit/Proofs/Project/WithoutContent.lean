import AssetAudit.Proofs.Files.Contents
import AssetAudit.Proofs.Project.SharedFiles

namespace AssetAudit

/-! Two projects that share their texts have the same images but for what the bytes of these say. -/

open FileTree

/-- An image without what only its bytes tell. -/
def Asset.withoutContent (asset : Asset) : Asset :=
  { asset with byteSize := 0, dimensions := none, isInterlaced := none, colorProfile := none }

namespace AssetReading

variable {workspace other : Workspace} {root path group fileName : String}
  {reading otherReading : AssetReading}

theorem ofFile_withoutContent {format : ImageFormat} {name : String} {kind : AssetKind}
    {scale : Int} {catalogGroup : Option String}
    (read : ofFile workspace root path format name kind scale catalogGroup = .ok reading) :
    reading.asset.withoutContent =
      ⟨name, path, 0, kind, format.name, some scale, none, none, none, catalogGroup⟩ := by
  unfold ofFile at read
  simp only at read
  split at read
  · obtain rfl := Except.ok.inj read
    rfl
  · split at read
    · cases read
    · obtain rfl := Except.ok.inj read
      rfl

theorem standalone?_withoutContent (read : standalone? workspace root path = .ok (some reading))
    (otherRead : standalone? other root path = .ok (some otherReading)) :
    otherReading.asset.withoutContent = reading.asset.withoutContent := by
  unfold standalone? at read otherRead
  simp only at read otherRead
  cases known : ImageFormat.ofFileName? (FileName.last path) with
  | none =>
      rw [known] at read
      cases read
  | some format =>
      rw [known] at read otherRead
      obtain ⟨_, made, same⟩ := map_some_eq_ok.mp read
      obtain ⟨_, otherMade, otherSame⟩ := map_some_eq_ok.mp otherRead
      obtain rfl := Option.some.inj same
      obtain rfl := Option.some.inj otherSame
      rw [ofFile_withoutContent made, ofFile_withoutContent otherMade]

theorem variant?_withoutContent {scales : Manifest}
    (read : variant? workspace root group scales fileName = .ok (some reading))
    (otherRead : variant? other root group scales fileName = .ok (some otherReading)) :
    otherReading.asset.withoutContent = reading.asset.withoutContent := by
  unfold variant? at read otherRead
  split at read
  · rename_i format scale known given
    rw [known, given] at otherRead
    obtain ⟨_, made, same⟩ := map_some_eq_ok.mp read
    obtain ⟨_, otherMade, otherSame⟩ := map_some_eq_ok.mp otherRead
    obtain rfl := Option.some.inj same
    obtain rfl := Option.some.inj otherSame
    rw [ofFile_withoutContent made, ofFile_withoutContent otherMade]
  · cases read

end AssetReading

/-- The file of a manifest that can be read is on the disk. -/
theorem Manifest.listed_of_read {workspace : Workspace} {root : String} {base place : Location}
    (located : workspace.files.locate workspace.directory root = .ok base) (nonempty : place ≠ [])
    (named : ∀ name ∈ place, IsProperName name) {scales : Manifest}
    (manifest : read workspace (joinPaths root (relativePath place)) = .ok scales) :
    ∃ content,
      (base ++ (place ++ [fileName]), Entry.file content) ∈ workspace.files.entries := by
  have properManifest := IsProperName.concat named isProperName
  obtain ⟨_, ⟨text, _, content, _⟩, _⟩ := read_eq_ok.mp manifest
  obtain ⟨bytes, found, _⟩ := readText_eq_ok.mp content
  rw [joinPaths_joinPaths (locate_eq_ok located).1 nonempty properManifest] at found
  obtain ⟨there, reached, file⟩ := content_eq_ok.mp found
  obtain rfl := located_below located (by simp) properManifest reached
  refine ⟨bytes, mem_entries_of_found (by simp) ?_ file⟩
  rw [← List.append_assoc, List.getLast?_concat]
  decide

section Projects

variable {workspace other : Workspace} {root : String} {base otherBase : Location}
  {fallbackExtensions : List String} {inventory otherInventory : Inventory}
  (project : workspace.HasProject root base) (otherProject : other.HasProject root otherBase)
  (shares : SharesTexts workspace.files other.files fallbackExtensions base otherBase)
  (directories : SharesImageDirectories workspace other root base otherBase)
  (read : Inventory.read workspace
    (.ofVisits root fallbackExtensions (workspace.files.walk root base)) = .ok inventory)
  (otherRead : Inventory.read other
    (.ofVisits root fallbackExtensions (other.files.walk root otherBase)) = .ok otherInventory)

include project otherProject shares

/-- The manifest of an image set is the same file on both disks, and so its directory is on the other
one as well. -/
theorem manifest_kept {place : Location} (group : IsOpenGroup workspace.files root base place)
    {scales : Manifest}
    (manifest : Manifest.read workspace (joinPaths root (relativePath place)) = .ok scales) :
    Manifest.read other (joinPaths root (relativePath place)) = .ok scales ∧
      IsOpenGroup other.files root otherBase place := by
  obtain ⟨content, file⟩ := Manifest.listed_of_read project.located group.nonempty
    (group.proper project.proper) manifest
  have otherFile := (shares.manifests place group.isGroup content).mp file
  constructor
  · rw [← manifest]
    exact Manifest.read_alike project.located otherProject.located group.nonempty
      (alike_of_listed project.proper otherProject.proper (by simp) file otherFile)
  · rw [← List.append_assoc] at otherFile
    exact ⟨otherProject.proper.parent_mem otherFile (by simp [group.nonempty]), group.isGroup,
      group.walkable⟩

include otherRead

theorem standalone_kept {reading : AssetReading} {path : String}
    (image : path ∈ (SourceTree.ofVisits root fallbackExtensions
      (workspace.files.walk root base)).imagePaths)
    (taking : AssetReading.standalone? workspace root path = .ok (some reading)) :
    ∃ otherReading ∈ otherInventory.readings,
      otherReading.asset.withoutContent = reading.asset.withoutContent := by
  obtain ⟨place, rfl, file, isImage⟩ :=
    ((project.classifies fallbackExtensions).images path).mp image
  rw [← last_relativePath (file.nonempty project.proper project.directory)
    (file.proper project.proper)] at isImage
  have otherImage : relativePath place ∈ (SourceTree.ofVisits root fallbackExtensions
      (other.files.walk root otherBase)).imagePaths := by
    simp only [SourceTree.ofVisits, files_shared project otherProject shares]
    exact image
  obtain ⟨otherReading, alone, otherTaking⟩ :=
    Inventory.standalone_read otherRead otherImage isImage
  exact ⟨otherReading, Inventory.mem_readings.mpr (Or.inl alone),
    AssetReading.standalone?_withoutContent taking otherTaking⟩

include directories

theorem variant_kept {reading : AssetReading} {group : String} {taken : GroupReading}
    (listed : group ∈ (SourceTree.ofVisits root fallbackExtensions
      (workspace.files.walk root base)).catalogGroups)
    (taking : GroupReading.read workspace root group = .ok taken)
    (within : reading ∈ taken.readings) :
    ∃ otherReading ∈ otherInventory.readings,
      otherReading.asset.withoutContent = reading.asset.withoutContent := by
  obtain ⟨place, rfl, isGroup⟩ :=
    ((project.classifies fallbackExtensions).groups group).mp listed
  have named := isGroup.proper project.proper
  obtain ⟨scales, names, fileName, manifest, found, among, variant⟩ :=
    (GroupReading.mem_readings taking).mp within
  obtain rfl := list_below project.located isGroup.nonempty named found
  obtain ⟨image, scale, given, -⟩ := AssetReading.variant?_asset variant
  obtain ⟨otherManifest, otherGroup⟩ :=
    manifest_kept project otherProject shares isGroup manifest
  have otherNames := list_of_manifest otherProject.located isGroup.nonempty named otherManifest
  have otherAmong : fileName ∈ other.files.namesIn (otherBase ++ place) := by
    rw [mem_namesIn, List.append_assoc] at among ⊢
    obtain ⟨entry, inside⟩ := among
    cases entry with
    | file content =>
        obtain ⟨otherContent, otherInside⟩ := (shares.paths _).mp ⟨content, inside⟩
        exact ⟨.file otherContent, otherInside⟩
    | directory =>
        exact ⟨.directory, (directories place fileName scales scale isGroup.isGroup image manifest
          otherManifest given).mp inside⟩
  have otherListed :=
    ((otherProject.classifies fallbackExtensions).groups _).mpr ⟨place, rfl, otherGroup⟩
  obtain ⟨otherTaken, member⟩ := Inventory.group_taken otherRead otherListed
  obtain ⟨-, otherTaking⟩ := (Inventory.mem_groups otherRead).mp member
  obtain ⟨reading?, otherVariant⟩ :=
    GroupReading.variant?_ok otherTaking otherManifest otherNames otherAmong
  obtain ⟨otherReading, rfl, -⟩ := AssetReading.variant?_isSome image given otherVariant
  have otherWithin := (GroupReading.mem_readings otherTaking).mpr
    ⟨scales, _, fileName, otherManifest, otherNames, otherAmong, otherVariant⟩
  exact ⟨otherReading, Inventory.mem_readings.mpr (Or.inr ⟨_, otherTaken, member, otherWithin⟩),
    AssetReading.variant?_withoutContent variant otherVariant⟩

include read

theorem withoutContent_kept {asset : Asset}
    (member : asset ∈ inventory.assets.map Asset.withoutContent) :
    asset ∈ otherInventory.assets.map Asset.withoutContent := by
  obtain ⟨_, listed, rfl⟩ := List.mem_map.mp member
  obtain ⟨reading, among, rfl⟩ := Inventory.mem_assets.mp listed
  suffices kept : ∃ otherReading ∈ otherInventory.readings,
      otherReading.asset.withoutContent = reading.asset.withoutContent by
    obtain ⟨otherReading, otherAmong, same⟩ := kept
    rw [← same]
    exact List.mem_map_of_mem (Inventory.mem_assets.mpr ⟨otherReading, otherAmong, rfl⟩)
  rcases Inventory.mem_readings.mp among with alone | ⟨group, taken, held, within⟩
  · obtain ⟨path, image, taking⟩ := (Inventory.mem_standalone read).mp alone
    exact standalone_kept project otherProject shares otherRead image taking
  · obtain ⟨isListed, taking⟩ := (Inventory.mem_groups read).mp held
    exact variant_kept project otherProject shares directories otherRead isListed taking within

end Projects

theorem Workspace.HasProject.withoutContent_ascending {workspace : Workspace} {root : String}
    {base : Location} (project : workspace.HasProject root base) {fallbackExtensions : List String}
    {inventory : Inventory}
    (read : Inventory.read workspace
      (.ofVisits root fallbackExtensions (workspace.files.walk root base)) = .ok inventory) :
    (inventory.assets.map Asset.withoutContent).Pairwise fun first second =>
      first.path < second.path := by
  have distinct := Inventory.paths_nodup project.proper project.located
    (project.classifies fallbackExtensions) read project.directory
  exact List.pairwise_map.mpr (List.pairwise_map.mp (Inventory.assets_ascending distinct))

/-- The inventory of a project depends on its texts but for what the bytes of its images say. -/
theorem inventory_withoutContent {workspace other : Workspace} {root : String}
    {base otherBase : Location} (project : workspace.HasProject root base)
    (otherProject : other.HasProject root otherBase) {fallbackExtensions : List String}
    (shares : SharesTexts workspace.files other.files fallbackExtensions base otherBase)
    (directories : SharesImageDirectories workspace other root base otherBase)
    {inventory otherInventory : Inventory}
    (read : Inventory.read workspace
      (.ofVisits root fallbackExtensions (workspace.files.walk root base)) = .ok inventory)
    (otherRead : Inventory.read other
      (.ofVisits root fallbackExtensions (other.files.walk root otherBase)) = .ok otherInventory) :
    otherInventory.assets.map Asset.withoutContent = inventory.assets.map Asset.withoutContent :=
  Text.eq_of_strict_order (fun _ _ => String.lt_asymm)
    (otherProject.withoutContent_ascending otherRead) (project.withoutContent_ascending read)
    fun _ => ⟨withoutContent_kept otherProject project shares.symm directories.symm otherRead read,
      withoutContent_kept project otherProject shares directories read otherRead⟩

end AssetAudit
