import AssetAudit.Proofs.Files.Contents
import AssetAudit.Proofs.Files.Joining
import AssetAudit.Proofs.Project.AssetSource

namespace AssetAudit

/-! What keeps an inventory from being taken.  Of all that the files of a project may hold, only a
manifest with an overlong integer and an image with a text for its profile do. -/

/-- What a project can rely on: a tidy disk, names without null characters, and headers that the
image reader takes or turns down. -/
structure Workspace.IsSound (workspace : Workspace) : Prop where
  proper : workspace.files.IsProper
  nulFree : ∀ entry ∈ workspace.files.entries, ∀ name ∈ entry.1, '\x00' ∉ name.toList
  headers : ∀ place content, (place, Entry.file content) ∈ workspace.files.entries →
    Image.Metadata.ofBytes content ≠ .error .sideOutOfRange ∧
      Image.Metadata.ofBytes content ≠ .error .outOfMemory

section NulFree

variable {workspace : Workspace} {root : String} {base names : Location}

theorem nulFree_of_locate (located : workspace.files.locate workspace.directory root = .ok base) :
    '\x00' ∉ root.toList := by
  unfold FileTree.locate at located
  split at located
  · cases located
  · rename_i plain
    simpa using plain

theorem nulFree_joinPaths {path : String} (rootPlain : '\x00' ∉ root.toList)
    (pathPlain : '\x00' ∉ path.toList) : '\x00' ∉ (joinPaths root path).toList := by
  unfold joinPaths
  split
  · exact pathPlain
  · split <;> simp [rootPlain, pathPlain]

end NulFree

/-- The image at the end of a path has a text in the place of its colour profile. -/
def HasTextProfile (workspace : Workspace) (path : String) : Prop :=
  ∃ content isAnnotated, workspace.files.content workspace.directory path = .ok content ∧
    Image.Metadata.ofBytes content = .error (.textAsProfile isAnnotated)

/-- Does the name promise an image with pixels? -/
def isRasterFile (fileName : String) : Bool :=
  (ImageFormat.ofFileName? fileName).any ImageFormat.isRaster

/-- The manifest in a directory holds an integer with more digits than are read. -/
def Manifest.IsOverlong (workspace : Workspace) (directory : String) : Prop :=
  ∃ text count, workspace.readText (joinPaths directory fileName) = .ok text ∧
    Json.read text = .error (.tooManyDigits count)

theorem Manifest.read_fatal {workspace : Workspace} {directory : String}
    (nulFree : '\x00' ∉ (joinPaths directory fileName).toList) :
    (∃ problem, read workspace directory = .error problem ∧ problem.isFatal = true) ↔
      IsOverlong workspace directory := by
  unfold read IsOverlong
  cases content : workspace.readText (joinPaths directory fileName) with
  | error failure =>
      have other : failure ≠ .access .embeddedNul := by
        rintro rfl
        exact content_ne_embeddedNul nulFree (readText_eq_access.mp content)
      have kept : (ManifestProblem.unreadable failure).isFatal = false := by
        unfold ManifestProblem.isFatal
        split <;> simp_all
      simp [kept]
  | ok text =>
      cases parsed : Json.read text with
      | error failure =>
          cases failure with
          | malformed problem place => simp [ManifestProblem.isFatal, parsed]
          | tooManyDigits count => simp [ManifestProblem.isFatal, parsed]
      | ok value =>
          have kept : ∀ problem, ofValue value = .error problem → problem.isFatal = false := by
            intro problem failed
            unfold ofValue at failed
            split at failed
            · cases failed
            · obtain rfl := Except.error.inj failed
              rfl
          simp only [Except.ok.injEq, exists_and_left, exists_eq_left', parsed, reduceCtorEq,
            exists_false, iff_false, not_exists, not_and, Bool.not_eq_true]
          exact kept

section Readers

variable {workspace : Workspace} (sound : workspace.IsSound) {root path group fileName : String}

include sound

theorem imageMetadata_fatal (nulFree : '\x00' ∉ path.toList) :
    (∃ problem, imageMetadata workspace path = .error problem ∧ problem.isFatal = true) ↔
      HasTextProfile workspace path := by
  unfold imageMetadata HasTextProfile
  cases read : workspace.files.content workspace.directory path with
  | error failure =>
      -- of the ways in which a file cannot be read only a null character in its path is fatal
      have other : failure ≠ .embeddedNul := by
        rintro rfl
        exact content_ne_embeddedNul nulFree read
      simp [ImageProblem.isFatal, other]
  | ok content =>
      obtain ⟨place, listed⟩ := mem_entries_of_content read
      obtain ⟨sideKept, memoryKept⟩ := sound.headers place content listed
      cases header : Image.Metadata.ofBytes content with
      | ok metadata => simp [Except.mapError, header]
      | error failure =>
          rw [header] at sideKept memoryKept
          cases failure with
          | sideOutOfRange => exact absurd rfl sideKept
          | outOfMemory => exact absurd rfl memoryKept
          | _ => simp [Except.mapError, header, ImageProblem.isFatal, Image.Failure.isFatal]

namespace AssetReading

theorem metadata?_fatal {format : ImageFormat} (nulFree : '\x00' ∉ path.toList) :
    (∃ problem, format.metadata? workspace path = .error problem ∧ problem.isFatal = true) ↔
      format.isRaster = true ∧ HasTextProfile workspace path := by
  unfold ImageFormat.metadata?
  cases raster : format.isRaster with
  | false => simp [nulFree]
  | true =>
      rw [← imageMetadata_fatal sound nulFree]
      cases imageMetadata workspace path <;> simp [Except.map]

theorem ofFile_fails_iff {format : ImageFormat} {name : String} {kind : AssetKind} {scale : Int}
    {catalogGroup : Option String} (nulFree : '\x00' ∉ (joinPaths root path).toList) :
    Fails (ofFile workspace root path format name kind scale catalogGroup) ↔
      format.isRaster = true ∧ HasTextProfile workspace (joinPaths root path) := by
  rw [← metadata?_fatal sound nulFree]
  unfold ofFile Fails
  simp only
  split
  · rename_i read
    simp [read]
  · rename_i problem read
    cases fatal : problem.isFatal <;> simp [read, fatal]

theorem standalone?_fails_iff (nulFree : '\x00' ∉ (joinPaths root path).toList) :
    Fails (standalone? workspace root path) ↔
      isRasterFile (FileName.last path) = true ∧
        HasTextProfile workspace (joinPaths root path) := by
  unfold standalone? isRasterFile
  simp only
  cases ImageFormat.ofFileName? (FileName.last path) with
  | none => simp [Fails]
  | some format => rw [fails_map, ofFile_fails_iff sound nulFree, Option.any_some]

theorem variant?_fails_iff {scales : Manifest}
    (nulFree : '\x00' ∉ (joinPaths root (group ++ "/" ++ fileName)).toList) :
    Fails (variant? workspace root group scales fileName) ↔
      isRasterFile fileName = true ∧ (∃ scale, KeyedList.get? scales fileName = some scale) ∧
        HasTextProfile workspace (joinPaths root (group ++ "/" ++ fileName)) := by
  unfold variant? isRasterFile
  cases ImageFormat.ofFileName? fileName with
  | none => simp [Fails]
  | some format =>
      cases KeyedList.get? scales fileName with
      | none => simp [Fails]
      | some scale =>
          simp only [fails_map, ofFile_fails_iff sound nulFree, Option.any_some, Option.some.injEq,
            exists_eq', true_and]

end AssetReading

theorem GroupReading.read_fails_iff
    (manifestNulFree : '\x00' ∉ (joinPaths (joinPaths root group) Manifest.fileName).toList)
    (nulFree : ∀ names,
      workspace.files.list workspace.directory (joinPaths root group) = .ok names →
        ∀ fileName ∈ names, '\x00' ∉ (joinPaths root (group ++ "/" ++ fileName)).toList) :
    Fails (read workspace root group) ↔
      Manifest.IsOverlong workspace (joinPaths root group) ∨
        ∃ scales names, Manifest.read workspace (joinPaths root group) = .ok scales ∧
          workspace.files.list workspace.directory (joinPaths root group) = .ok names ∧
          ∃ fileName ∈ names, isRasterFile fileName = true ∧
            (∃ scale, KeyedList.get? scales fileName = some scale) ∧
              HasTextProfile workspace (joinPaths root (group ++ "/" ++ fileName)) := by
  rw [← Manifest.read_fatal manifestNulFree]
  unfold read
  simp only
  cases manifest : Manifest.read workspace (joinPaths root group) with
  | error problem => cases fatal : problem.isFatal <;> simp [Fails, fatal]
  | ok scales =>
      cases listed : workspace.files.list workspace.directory (joinPaths root group) with
      | error failure => simp [Fails]
      | ok names =>
          have each : Fails (names.mapM (AssetReading.variant? workspace root group scales)) ↔
              ∃ fileName ∈ names, isRasterFile fileName = true ∧
                (∃ scale, KeyedList.get? scales fileName = some scale) ∧
                  HasTextProfile workspace (joinPaths root (group ++ "/" ++ fileName)) := by
            rw [fails_mapM]
            exact exists_congr fun fileName => and_congr_right fun among =>
              AssetReading.variant?_fails_iff sound (nulFree names listed fileName among)
          rw [fails_bind_pure, each]
          simp

end Readers

/-- Something that keeps the inventory of a project from being taken. -/
inductive HasObstacle (workspace : Workspace) (root : String) (base : Location) : Prop
  /-- An image set has a manifest with an overlong integer. -/
  | manifest {place : Location} (group : IsOpenGroup workspace.files root base place)
      (overlong : Manifest.IsOverlong workspace (joinPaths root (relativePath place)))
  /-- An image outside all catalogs has a text for its profile. -/
  | standalone {place : Location} (file : IsOpenFile workspace.files root base place)
      (raster : isRasterFile (fileNameOf place) = true)
      (text : HasTextProfile workspace (joinPaths root (relativePath place)))
  /-- A variant of an image set has one. -/
  | variant {place : Location} {fileName : String} {records : List Json.Value} {scale : Int}
      (group : IsOpenGroup workspace.files root base place)
      (inside : fileName ∈ workspace.files.namesIn (base ++ place))
      (raster : isRasterFile fileName = true)
      (lists : Manifest.Lists workspace (joinPaths root (relativePath place)) records)
      (gives : Manifest.LastGives records fileName scale)
      (text : HasTextProfile workspace (joinPaths root (relativePath (place ++ [fileName]))))

theorem isAssetFile_of_raster {fileName : String} (raster : isRasterFile fileName = true) :
    isAssetFile fileName = true := by
  rw [← ofFileName?_isSome]
  unfold isRasterFile at raster
  cases known : ImageFormat.ofFileName? fileName with
  | none =>
      rw [known] at raster
      cases raster
  | some format => rfl

section Inventory

variable {workspace : Workspace} {tree : SourceTree} {root : String}
  {fallbackExtensions : List String} {base : Location} (sound : workspace.IsSound)
  (located : workspace.files.locate workspace.directory root = .ok base)
  (directory : workspace.files.isDirectory base = true)

include sound located

theorem nulFree_place {place : Location} {entry : Entry}
    (listed : (base ++ place, entry) ∈ workspace.files.entries) :
    '\x00' ∉ (joinPaths root (relativePath place)).toList :=
  nulFree_joinPaths (nulFree_of_locate located) (nulFree_intercalate fun name among =>
    sound.nulFree _ listed name (List.mem_append_right base among))

/-- An image set of a project fails for its manifest or for one of its variants. -/
theorem group_fails_iff {place : Location} (group : IsOpenGroup workspace.files root base place) :
    Fails (GroupReading.read workspace root (relativePath place)) ↔
      Manifest.IsOverlong workspace (joinPaths root (relativePath place)) ∨
        ∃ fileName ∈ workspace.files.namesIn (base ++ place), isRasterFile fileName = true ∧
          (∃ records scale, Manifest.Lists workspace (joinPaths root (relativePath place)) records ∧
            Manifest.LastGives records fileName scale) ∧
          HasTextProfile workspace (joinPaths root (relativePath (place ++ [fileName]))) := by
  have groupProper := group.proper sound.proper
  have groupPlain := nulFree_place sound located group.listed
  have manifestPlain := nulFree_joinPaths groupPlain
    (show '\x00' ∉ Manifest.fileName.toList by decide)
  -- what a directory lists is on the disk, where no name has a null character
  have namesPlain : ∀ names, workspace.files.list workspace.directory
      (joinPaths root (relativePath place)) = .ok names → ∀ fileName ∈ names,
        '\x00' ∉ (joinPaths root (relativePath place ++ "/" ++ fileName)).toList := by
    intro names listed fileName among
    obtain rfl := FileTree.list_below located group.nonempty groupProper listed
    obtain ⟨entry, onDisk⟩ := FileTree.mem_namesIn.mp among
    rw [List.append_assoc] at onDisk
    rw [← relativePath_concat group.nonempty]
    exact nulFree_place sound located onDisk
  rw [GroupReading.read_fails_iff sound manifestPlain namesPlain]
  refine or_congr_right ?_
  constructor
  · rintro ⟨scales, names, manifest, listed, fileName, among, raster, ⟨scale, given⟩, text⟩
    obtain rfl := FileTree.list_below located group.nonempty groupProper listed
    obtain ⟨records, lists, rfl⟩ := Manifest.read_eq_ok.mp manifest
    rw [← relativePath_concat group.nonempty] at text
    exact ⟨fileName, among, raster, ⟨records, scale, lists, Manifest.get?_ofRecords.mp given⟩, text⟩
  · rintro ⟨fileName, among, raster, ⟨records, scale, lists, gives⟩, text⟩
    have manifest := Manifest.read_eq_ok.mpr ⟨records, lists, rfl⟩
    rw [relativePath_concat group.nonempty] at text
    exact ⟨_, _, manifest, list_of_manifest located group.nonempty groupProper manifest, fileName,
      among, raster, ⟨scale, Manifest.get?_ofRecords.mpr gives⟩, text⟩

include directory

/-- The inventory of a project is taken unless there is an obstacle. -/
theorem inventory_fails_iff
    (classifies : tree.Classifies workspace.files root fallbackExtensions base) :
    Fails (Inventory.read workspace tree) ↔ HasObstacle workspace root base := by
  have split : Fails (Inventory.read workspace tree) ↔
      (∃ path ∈ tree.imagePaths, Fails (AssetReading.standalone? workspace root path)) ∨
        ∃ group ∈ tree.catalogGroups, Fails (GroupReading.read workspace root group) := by
    rw [← classifies.rootKept]
    unfold Inventory.read
    rw [fails_both, fails_mapM, fails_mapM]
    simp only [fails_bind_pure]
  rw [split]
  constructor
  · rintro (⟨path, image, failed⟩ | ⟨group, listed, failed⟩)
    · obtain ⟨place, rfl, file, -⟩ := (classifies.images path).mp image
      obtain ⟨content, onDisk⟩ := file.listed
      obtain ⟨raster, text⟩ := (AssetReading.standalone?_fails_iff sound
        (nulFree_place sound located onDisk)).mp failed
      rw [last_relativePath (file.nonempty sound.proper directory) (file.proper sound.proper)]
        at raster
      exact .standalone file raster text
    · obtain ⟨place, rfl, isGroup⟩ := (classifies.groups group).mp listed
      rcases (group_fails_iff sound located isGroup).mp failed with
        overlong | ⟨fileName, inside, raster, ⟨records, scale, lists, gives⟩, text⟩
      · exact .manifest isGroup overlong
      · exact .variant isGroup inside raster lists gives text
  · intro obstacle
    cases obstacle with
    | @manifest place group overlong =>
        exact Or.inr ⟨relativePath place, (classifies.groups _).mpr ⟨place, rfl, group⟩,
          (group_fails_iff sound located group).mpr (Or.inl overlong)⟩
    | @variant place fileName records scale group inside raster lists gives text =>
        exact Or.inr ⟨relativePath place, (classifies.groups _).mpr ⟨place, rfl, group⟩,
          (group_fails_iff sound located group).mpr
            (Or.inr ⟨fileName, inside, raster, ⟨records, scale, lists, gives⟩, text⟩)⟩
    | @standalone place file raster text =>
        obtain ⟨content, onDisk⟩ := file.listed
        have image := (classifies.images _).mpr ⟨place, rfl, file, isAssetFile_of_raster raster⟩
        rw [← last_relativePath (file.nonempty sound.proper directory) (file.proper sound.proper)]
          at raster
        exact Or.inl ⟨relativePath place, image, (AssetReading.standalone?_fails_iff sound
          (nulFree_place sound located onDisk)).mpr ⟨raster, text⟩⟩

end Inventory

end AssetAudit
