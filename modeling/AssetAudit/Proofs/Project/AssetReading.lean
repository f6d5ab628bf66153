import AssetAudit.Project.Inventory
import AssetAudit.Proofs.Outcome
import AssetAudit.Proofs.Project.Manifest
import AssetAudit.Proofs.Project.Scan
import Mathlib.Data.List.ReduceOption

namespace AssetAudit

/-! What taking in one image or one image set comes to. -/

/-- The extensions of images are those of the container formats. -/
theorem ofFileName?_isSome (fileName : String) :
    (ImageFormat.ofFileName? fileName).isSome = isAssetFile fileName := by
  unfold ImageFormat.ofFileName? isAssetFile assetExtensions
  split <;> simp_all

namespace AssetReading

variable {workspace : Workspace} {root path group fileName : String}

theorem ofFile_asset {format : ImageFormat} {name : String} {kind : AssetKind} {scale : Int}
    {catalogGroup : Option String} {reading : AssetReading}
    (read : ofFile workspace root path format name kind scale catalogGroup = .ok reading) :
    reading.asset.path = path ∧ reading.asset.name = name ∧ reading.asset.kind = kind ∧
      reading.asset.scale = some scale ∧ reading.asset.catalogGroup = catalogGroup := by
  unfold ofFile at read
  simp only at read
  split at read
  · obtain rfl := Except.ok.inj read
    exact ⟨rfl, rfl, rfl, rfl, rfl⟩
  · split at read
    · cases read
    · obtain rfl := Except.ok.inj read
      exact ⟨rfl, rfl, rfl, rfl, rfl⟩

theorem format_kind_ne (format : ImageFormat) : format.kind ≠ .catalogVariant := by
  cases format <;> decide

/-- An image outside all catalogs. -/
structure IsStandalone (asset : Asset) (path : String) : Prop where
  located : asset.path = path
  name : asset.name = FileName.stem (FileName.last path)
  kind : asset.kind ≠ .catalogVariant
  catalogGroup : asset.catalogGroup = none

theorem standalone?_asset {reading : AssetReading}
    (read : standalone? workspace root path = .ok (some reading)) :
    IsStandalone reading.asset path := by
  unfold standalone? at read
  simp only at read
  split at read
  · cases read
  · rename_i format _
    obtain ⟨_, made, same⟩ := map_some_eq_ok.mp read
    obtain rfl := Option.some.inj same
    obtain ⟨samePath, name, kind, _, catalogGroup⟩ := ofFile_asset made
    exact ⟨samePath, name, kind ▸ format_kind_ne format, catalogGroup⟩

theorem standalone?_isSome (image : isAssetFile (FileName.last path) = true)
    {reading? : Option AssetReading} (read : standalone? workspace root path = .ok reading?) :
    ∃ reading, reading? = some reading := by
  rw [← ofFileName?_isSome, Option.isSome_iff_exists] at image
  obtain ⟨format, known⟩ := image
  unfold standalone? at read
  simp only [known] at read
  obtain ⟨reading, _, same⟩ := map_some_eq_ok.mp read
  exact ⟨reading, same⟩

/-- A variant of an image set, in a file of its directory. -/
structure IsVariant (asset : Asset) (group fileName : String) (scale : Int) : Prop where
  located : asset.path = group ++ "/" ++ fileName
  name : asset.name = setName group
  kind : asset.kind = .catalogVariant
  scaled : asset.scale = some scale
  catalogGroup : asset.catalogGroup = some group

theorem IsVariant.unique {asset : Asset} {other otherName : String} {scale otherScale : Int}
    (variant : IsVariant asset group fileName scale)
    (same : IsVariant asset other otherName otherScale) :
    group = other ∧ fileName = otherName ∧ scale = otherScale := by
  obtain rfl : group = other :=
    Option.some.inj (variant.catalogGroup.symm.trans same.catalogGroup)
  have paths := variant.located.symm.trans same.located
  exact ⟨rfl, (String.append_right_inj _).mp paths,
    Option.some.inj (variant.scaled.symm.trans same.scaled)⟩

theorem variant?_asset {scales : Manifest} {reading : AssetReading}
    (read : variant? workspace root group scales fileName = .ok (some reading)) :
    isAssetFile fileName = true ∧ ∃ scale, KeyedList.get? scales fileName = some scale ∧
      IsVariant reading.asset group fileName scale := by
  unfold variant? at read
  split at read
  · rename_i format scale known given
    obtain ⟨_, made, same⟩ := map_some_eq_ok.mp read
    obtain rfl := Option.some.inj same
    obtain ⟨path, name, kind, scaled, catalogGroup⟩ := ofFile_asset made
    rw [← ofFileName?_isSome, known]
    exact ⟨rfl, scale, given, path, name, kind, scaled, catalogGroup⟩
  · cases read

theorem variant?_isSome {scales : Manifest} {scale : Int} (image : isAssetFile fileName = true)
    (given : KeyedList.get? scales fileName = some scale) {reading? : Option AssetReading}
    (read : variant? workspace root group scales fileName = .ok reading?) :
    ∃ reading, reading? = some reading ∧ IsVariant reading.asset group fileName scale := by
  rw [← ofFileName?_isSome, Option.isSome_iff_exists] at image
  obtain ⟨format, known⟩ := image
  unfold variant? at read
  simp only [known, given] at read
  obtain ⟨reading, made, rfl⟩ := map_some_eq_ok.mp read
  obtain ⟨path, name, kind, scaled, catalogGroup⟩ := ofFile_asset made
  exact ⟨reading, rfl, path, name, kind, scaled, catalogGroup⟩

end AssetReading

namespace GroupReading

variable {workspace : Workspace} {root group : String} {taken : GroupReading}

/-- An image set with a manifest and a listing has the variants of its files, any other has none. -/
theorem read_cases (read : read workspace root group = .ok taken) :
    (∃ scales names found, Manifest.read workspace (joinPaths root group) = .ok scales ∧
      workspace.files.list workspace.directory (joinPaths root group) = .ok names ∧
      names.mapM (AssetReading.variant? workspace root group scales) = .ok found ∧
      taken.readings = found.reduceOption) ∨
    taken.readings = [] ∧
      ((∃ problem, Manifest.read workspace (joinPaths root group) = .error problem) ∨
        ∃ failure,
          workspace.files.list workspace.directory (joinPaths root group) = .error failure) := by
  unfold GroupReading.read at read
  simp only at read
  split at read
  · rename_i problem manifest
    split at read
    · cases read
    · obtain rfl := Except.ok.inj read
      exact Or.inr ⟨rfl, Or.inl ⟨problem, manifest⟩⟩
  · rename_i scales manifest
    split at read
    · rename_i failure listed
      obtain rfl := Except.ok.inj read
      exact Or.inr ⟨rfl, Or.inr ⟨failure, listed⟩⟩
    · rename_i names listed
      cases made : names.mapM (AssetReading.variant? workspace root group scales) with
      | error failure =>
          rw [made] at read
          cases read
      | ok found =>
          rw [made] at read
          obtain rfl := Except.ok.inj read
          exact Or.inl ⟨scales, names, found, manifest, listed, made, rfl⟩

/-- A variant stands for an entry of the directory that the manifest gives a scale. -/
theorem mem_readings (read : read workspace root group = .ok taken) {reading : AssetReading} :
    reading ∈ taken.readings ↔
      ∃ scales names fileName, Manifest.read workspace (joinPaths root group) = .ok scales ∧
        workspace.files.list workspace.directory (joinPaths root group) = .ok names ∧
        fileName ∈ names ∧
          AssetReading.variant? workspace root group scales fileName = .ok (some reading) := by
  rcases read_cases read with ⟨scales, names, found, manifest, listed, made, same⟩ |
    ⟨empty, broken⟩
  · rw [same, List.reduceOption_mem_iff, mem_of_mapM made]
    constructor
    · intro member
      obtain ⟨fileName, among, variant⟩ := member
      exact ⟨scales, names, fileName, manifest, listed, among, variant⟩
    · intro member
      obtain ⟨others, otherNames, fileName, otherManifest, otherListed, among, variant⟩ := member
      obtain rfl := Except.ok.inj (manifest.symm.trans otherManifest)
      obtain rfl := Except.ok.inj (listed.symm.trans otherListed)
      exact ⟨fileName, among, variant⟩
  · rw [empty]
    constructor
    · intro member
      cases member
    · intro member
      obtain ⟨scales, names, _, manifest, listed, _⟩ := member
      rcases broken with ⟨problem, broken⟩ | ⟨failure, broken⟩
      · rw [manifest] at broken
        cases broken
      · rw [listed] at broken
        cases broken

theorem variant?_ok (read : read workspace root group = .ok taken) {scales : Manifest}
    {names : List String} {fileName : String}
    (manifest : Manifest.read workspace (joinPaths root group) = .ok scales)
    (listed : workspace.files.list workspace.directory (joinPaths root group) = .ok names)
    (among : fileName ∈ names) :
    ∃ reading?, AssetReading.variant? workspace root group scales fileName = .ok reading? := by
  rcases read_cases read with ⟨others, otherNames, found, otherManifest, otherListed, made, _⟩ |
    ⟨_, ⟨problem, broken⟩ | ⟨failure, broken⟩⟩
  · obtain rfl := Except.ok.inj (manifest.symm.trans otherManifest)
    obtain rfl := Except.ok.inj (listed.symm.trans otherListed)
    obtain ⟨reading?, _, variant⟩ := ok_of_mapM made among
    exact ⟨reading?, variant⟩
  · rw [manifest] at broken
    cases broken
  · rw [listed] at broken
    cases broken

theorem readings_distinct (read : read workspace root group = .ok taken)
    (distinct : ∀ names,
      workspace.files.list workspace.directory (joinPaths root group) = .ok names → names.Nodup) :
    taken.readings.Pairwise fun reading other => reading.asset.path ≠ other.asset.path := by
  rcases read_cases read with ⟨scales, names, found, _, listed, made, same⟩ | ⟨empty, _⟩
  · rw [same, List.reduceOption]
    refine (pairwise_of_mapM (distinct names listed) made ?_).filterMap id
      fun _ _ related => related
    rintro fileName _ other _ different _ _ read readOther reading rfl second rfl same
    obtain ⟨_, _, _, shape⟩ := AssetReading.variant?_asset read
    obtain ⟨_, _, _, otherShape⟩ := AssetReading.variant?_asset readOther
    rw [shape.located, otherShape.located] at same
    exact different ((String.append_right_inj _).mp same)
  · rw [empty]
    exact List.Pairwise.nil

end GroupReading

theorem Manifest.isProperName : IsProperName Manifest.fileName := by decide

open FileTree

section Group

variable {workspace : Workspace} {root group fileName : String} {base place : Location}
  (located : workspace.files.locate workspace.directory root = .ok base) (nonempty : place ≠ [])
  (proper : ∀ name ∈ place, IsProperName name)

include located nonempty proper

/-- An image set whose manifest can be read can be listed as well. -/
theorem list_of_manifest {scales : Manifest}
    (manifest : Manifest.read workspace (joinPaths root (relativePath place)) = .ok scales) :
    workspace.files.list workspace.directory (joinPaths root (relativePath place)) =
      .ok (workspace.files.namesIn (base ++ place)) := by
  have properManifest := IsProperName.concat proper Manifest.isProperName
  obtain ⟨records, ⟨text, _, read, _⟩, _⟩ := Manifest.read_eq_ok.mp manifest
  rw [joinPaths_joinPaths (locate_eq_ok located).1 nonempty properManifest] at read
  cases reached : workspace.files.locate workspace.directory
      (joinPaths root (relativePath (place ++ [Manifest.fileName]))) with
  | error failure =>
      rw [Workspace.readText, FileTree.content, reached] at read
      cases read
  | ok there =>
      obtain ⟨above, directory⟩ := locate_above located nonempty properManifest reached
      unfold FileTree.list
      rw [above]
      simp only [bind, Except.bind, directory]
      rfl

end Group

end AssetAudit
