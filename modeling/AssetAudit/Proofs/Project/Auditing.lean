import AssetAudit.Proofs.Compliance.Standard
import AssetAudit.Proofs.Json.LongNumber
import AssetAudit.Proofs.Project.AuditOutcome
import AssetAudit.Proofs.Project.Completion
import AssetAudit.Proofs.Project.SurveyGrowth

namespace AssetAudit

/-! An audit returns whatever the files of a project hold, unless there is an obstacle.  A text that
cannot be read is left out, and so are an image set without a readable manifest and the properties
of a broken image. -/

open FileTree

/-- An image that is read has no more pixels than the reader allows. -/
theorem Image.Metadata.pixels_of_ofBytes {bytes : List UInt8} {metadata : Metadata}
    (read : ofBytes bytes = .ok metadata) :
    metadata.dimensions.1 * metadata.dimensions.2 ≤ Failure.mostPixels := by
  obtain ⟨header, -, read⟩ := bind_eq_ok.mp read
  obtain ⟨_, checked, read⟩ := bind_eq_ok.mp read
  obtain ⟨profile, -, read⟩ := bind_eq_ok.mp read
  obtain rfl := Except.ok.inj read
  unfold checkPixels at checked
  simp only at checked
  split at checked
  · cases checked
  · rename_i few
    have sides : header.width * header.height ≤ max 1 header.width * max 1 header.height :=
      Nat.mul_le_mul (Nat.le_max_right 1 _) (Nat.le_max_right 1 _)
    show ((header.width : Int) * header.height ≤ Failure.mostPixels)
    exact_mod_cast Nat.le_trans sides (Nat.not_lt.mp few)

theorem ofBytes_of_metadata? {format : ImageFormat} {workspace : Workspace} {path : String}
    {metadata : Image.Metadata} (read : format.metadata? workspace path = .ok (some metadata)) :
    ∃ bytes, Image.Metadata.ofBytes bytes = .ok metadata := by
  unfold ImageFormat.metadata? at read
  split at read
  · obtain ⟨found, content, same⟩ := map_some_eq_ok.mp read
    obtain rfl := Option.some.inj same
    unfold imageMetadata at content
    split at content
    · rename_i bytes _
      exact ⟨bytes, mapError_eq_ok.mp content⟩
    · cases content
  · split at read
    · cases read
    · cases read

theorem AssetReading.IsOfFile.isReadable {workspace : Workspace} {root : String}
    {reading : AssetReading} (ofFile : reading.IsOfFile workspace root) :
    reading.asset.IsReadable := by
  obtain ⟨path, format, name, kind, scale, catalogGroup, read⟩ := ofFile
  intro width height known
  unfold AssetReading.ofFile at read
  simp only at read
  split at read
  · rename_i metadata? found
    obtain rfl := Except.ok.inj read
    obtain ⟨metadata, rfl, sides⟩ := Option.map_eq_some_iff.mp known
    obtain ⟨bytes, header⟩ := ofBytes_of_metadata? found
    have few := Image.Metadata.pixels_of_ofBytes header
    rwa [sides] at few
  · split at read
    · cases read
    · obtain rfl := Except.ok.inj read
      cases known

/-- The variants of an image set come with a manifest. -/
theorem Inventory.lists_of_grouped {workspace : Workspace} {tree : SourceTree}
    {inventory : Inventory} (read : Inventory.read workspace tree = .ok inventory) {asset : Asset}
    (member : asset ∈ inventory.assets) {group : String}
    (grouped : asset.catalogGroup = some group) :
    ∃ records, Manifest.Lists workspace (joinPaths tree.root group) records := by
  obtain ⟨_, _, _, _, manifest, _⟩ := variant_of_grouped read member grouped
  obtain ⟨records, lists, -⟩ := Manifest.read_eq_ok.mp manifest
  exact ⟨records, lists⟩

theorem Survey.mem_skipped {workspace : Workspace} {survey : Survey}
    (readings : survey.readings = readTexts workspace survey.tree) {path : String}
    {category : Category} (text : (path, category) ∈ survey.tree.textPaths) {failure : TextFailure}
    (failed : workspace.readText (joinPaths survey.tree.root path) = .error failure) :
    ⟨path, skipReason failure⟩ ∈ survey.skipped := by
  have reading : (path, readSource workspace survey.tree.root path category) ∈ survey.readings := by
    rw [readings]
    exact List.mem_map.mpr ⟨(path, category), List.mem_mergeSort.mpr text, rfl⟩
  refine List.mem_filterMap.mpr ⟨_, reading, ?_⟩
  simp [readSource, failed, Except.map]

/-- What the report of an audit has of the files of a project, be they broken or not. -/
structure AuditReport.Covers (report : AuditReport) (workspace : Workspace) (root : String)
    (base : Location) (fallbackExtensions : List String) : Prop where
  /-- Every image outside all catalogs is there, whatever its bytes are. -/
  images : ∀ place, IsOpenFile workspace.files root base place →
    isAssetFile (fileNameOf place) = true →
      ∃ asset ∈ report.assets, AssetReading.IsStandalone asset (relativePath place)
  /-- An image set has the variants that its manifest gives a scale. -/
  variants : ∀ place, IsOpenGroup workspace.files root base place → ∀ fileName scale,
    (∃ asset ∈ report.assets, AssetReading.IsVariant asset (relativePath place) fileName scale) ↔
      fileName ∈ workspace.files.namesIn (base ++ place) ∧ isAssetFile fileName = true ∧
        ∃ records, Manifest.Lists workspace (joinPaths root (relativePath place)) records ∧
          Manifest.LastGives records fileName scale
  /-- An image set without a readable manifest is left out. -/
  leftOut : ∀ place, IsOpenGroup workspace.files root base place →
    (∀ records, ¬ Manifest.Lists workspace (joinPaths root (relativePath place)) records) →
      ∀ asset ∈ report.assets, asset.catalogGroup ≠ some (relativePath place)
  /-- A text that cannot be read is passed by, and the report says why. -/
  skipped : ∀ place category, IsOpenFile workspace.files root base place →
    isAssetFile (fileNameOf place) = false →
      Category.ofFileName? fallbackExtensions (fileNameOf place) = some category → ∀ failure,
        workspace.readText (joinPaths root (relativePath place)) = .error failure →
          ⟨relativePath place, skipReason failure⟩ ∈ report.skippedFiles

section Audit

variable {workspace : Workspace} {root : String} {base : Location} {config : Config}
  (sound : workspace.IsSound)
  (located : workspace.files.locate workspace.directory root = .ok base)
  (directory : workspace.files.isDirectory base = true)

include sound located directory

theorem scan_classifies {fallbackExtensions : List String} {tree : SourceTree}
    (scanned : SourceTree.scan workspace root fallbackExtensions = .ok tree) :
    (workspace.place? root).isSome = true ∧
      tree.Classifies workspace.files root fallbackExtensions base := by
  obtain ⟨place, found, -, placed, rfl⟩ := SourceTree.scan_eq_ok.mp scanned
  obtain rfl := Except.ok.inj (located.symm.trans found)
  have rootNonempty := (locate_eq_ok located).1
  exact ⟨placed, SourceTree.classifies_ofVisits sound.proper rootNonempty directory⟩

/-- A project is surveyed unless the working directory is gone or there is an obstacle. -/
theorem survey_iff (fallbackExtensions : List String) :
    (∃ survey, Survey.read workspace root fallbackExtensions = .ok survey) ↔
      (workspace.place? root).isSome = true ∧ ¬ HasObstacle workspace root base := by
  constructor
  · rintro ⟨survey, surveyed⟩
    obtain ⟨treeRead, read, -⟩ := Survey.read_eq_ok.mp surveyed
    obtain ⟨placed, classifies⟩ := scan_classifies sound located directory treeRead
    refine ⟨placed, ?_⟩
    rw [← inventory_fails_iff sound located directory classifies, not_fails_iff]
    exact ⟨survey.inventory, read⟩
  · rintro ⟨placed, free⟩
    let tree := SourceTree.ofVisits root fallbackExtensions (workspace.files.walk root base)
    have treeRead : SourceTree.scan workspace root fallbackExtensions = .ok tree :=
      SourceTree.scan_eq_ok.mpr ⟨base, located, directory, placed, rfl⟩
    have classifies := (scan_classifies sound located directory treeRead).2
    rw [← inventory_fails_iff sound located directory classifies, not_fails_iff]
      at free
    obtain ⟨inventory, read⟩ := free
    exact ⟨⟨tree, inventory, Survey.readTexts workspace tree⟩,
      Survey.read_eq_ok.mpr ⟨treeRead, read, rfl⟩⟩

theorem audit_covers {config : Config} {rules : List Rule} {report : AuditReport}
    (audited : audit workspace root config rules = .ok report) :
    report.Covers workspace root base config.fallbackExtensions := by
  obtain ⟨-, survey, compliance, surveyed, -, rfl⟩ := audit_eq_ok.mp audited
  obtain ⟨treeRead, read, readings⟩ := Survey.read_eq_ok.mp surveyed
  have classifies := (scan_classifies sound located directory treeRead).2
  have rootKept := classifies.rootKept
  have treeLocated := located
  rw [← rootKept] at treeLocated
  refine ⟨?_, ?_, ?_, ?_⟩
  · intro place file image
    have listed := (classifies.images _).mpr ⟨place, rfl, file, image⟩
    rw [← last_relativePath (file.nonempty sound.proper directory) (file.proper sound.proper)]
      at image
    obtain ⟨reading, among, standalone⟩ := Inventory.standalone_taken read listed image
    exact ⟨reading.asset, Inventory.mem_assets.mpr
      ⟨reading, Inventory.mem_readings.mpr (Or.inl among), rfl⟩, standalone⟩
  · intro place group fileName scale
    have listed := (classifies.groups _).mpr ⟨place, rfl, group⟩
    have exact := Inventory.variant_iff sound.proper treeLocated classifies read listed
      fileName scale
    rwa [pathParts_relativePath group.nonempty (group.proper sound.proper), rootKept] at exact
  · intro place group unlisted asset member grouped
    obtain ⟨records, lists⟩ := Inventory.lists_of_grouped read member grouped
    rw [rootKept] at lists
    exact unlisted records lists
  · intro place category file noImage recognised failure failed
    have text := (classifies.texts _ _).mpr ⟨place, rfl, file, noImage, recognised⟩
    rw [← rootKept] at failed
    exact Survey.mem_skipped readings text failed

/-- An audit of a directory returns a report, which covers the whole project, unless there are no
workers, the working directory is gone, a manifest has an overlong integer or an image has a text
for its profile.  Manifests are taken to be nested within the recursion limit, as `Json.ReadError`
says. -/
theorem audit_returns_iff (config : Config) :
    ((∃ report, audit workspace root config Rule.standard = .ok report) ↔
      1 ≤ config.workers ∧ (workspace.place? root).isSome = true ∧
        ¬ HasObstacle workspace root base) ∧
    ∀ report, audit workspace root config Rule.standard = .ok report →
      report.Covers workspace root base config.fallbackExtensions := by
  refine ⟨?_, fun report => audit_covers sound located directory⟩
  rw [← survey_iff sound located directory config.fallbackExtensions]
  constructor
  · rintro ⟨report, audited⟩
    obtain ⟨staffed, survey, _, surveyed, _, _⟩ := audit_eq_ok.mp audited
    exact ⟨staffed, survey, surveyed⟩
  · rintro ⟨staffed, survey, surveyed⟩
    obtain ⟨_, read, _⟩ := Survey.read_eq_ok.mp surveyed
    -- the rules fail for a huge image only, and the reader has turned those down
    have readable : ∀ asset ∈ survey.assets, asset.IsReadable := by
      intro asset member
      obtain ⟨reading, rfl, ofFile⟩ := Inventory.assets_ofFile read member
      exact ofFile.isReadable
    obtain ⟨compliance, checked⟩ := runCompliance_standard readable
    exact ⟨_, audit_eq_ok.mpr ⟨staffed, survey, compliance, surveyed, checked, rfl⟩⟩

end Audit

/-- An image set whose manifest is one long integer. -/
def longProject : Workspace :=
  ⟨⟨[(["A.xcassets", "B.imageset", "Contents.json"], .file (List.replicate 4301 49)),
      (["A.xcassets"], .directory),
      (["A.xcassets", "B.imageset"], .directory)]⟩, []⟩

theorem longProject_isSound : longProject.IsSound where
  proper := by decide
  nulFree := by decide
  headers := by
    intro place content listed
    rcases List.mem_cons.mp listed with same | others
    · obtain ⟨-, same⟩ := Prod.mk.inj same
      obtain rfl := Entry.file.inj same
      decide +kernel
    · simp at others

theorem longManifest_isOverlong :
    Manifest.IsOverlong longProject (joinPaths "." "A.xcassets/B.imageset") := by
  have content : longProject.files.content longProject.directory
      (joinPaths (joinPaths "." "A.xcassets/B.imageset") Manifest.fileName) =
        .ok (List.replicate 4301 49) :=
    content_eq_ok.mpr ⟨["A.xcassets", "B.imageset", "Contents.json"], by decide, rfl⟩
  refine ⟨List.replicate 4301 '1', 4301, ?_, ?_⟩
  · rw [readText_of_content content, decodeText_ascii]
    · rw [List.map_replicate]
      rfl
    · intro byte among
      obtain rfl := List.eq_of_mem_replicate among
      decide
    · rw [List.map_replicate]
      intro among
      cases List.eq_of_mem_replicate among
  · rw [List.replicate_succ, Json.read_overlong (by decide) (by decide)]
    · rw [List.length_cons, List.length_replicate]
    · intro c among
      obtain rfl := List.eq_of_mem_replicate among
      decide
    · rw [List.length_replicate]
      decide

theorem longProject_hasObstacle : HasObstacle longProject "." [] := by
  have group : IsOpenGroup longProject.files "." [] ["A.xcassets", "B.imageset"] :=
    ⟨List.mem_cons_of_mem _ (List.mem_cons_of_mem _ (List.mem_singleton_self _)), by decide,
      by decide⟩
  exact .manifest group longManifest_isOverlong

/-- The one long integer in a manifest takes the whole report away. -/
theorem longProject_no_report :
    longProject.IsSound ∧ longProject.files.locate longProject.directory "." = .ok [] ∧
      longProject.files.isDirectory [] = true ∧
        ¬ ∃ report, audit longProject "." {} Rule.standard = .ok report := by
  refine ⟨longProject_isSound, rfl, rfl, fun returns => ?_⟩
  have free := ((audit_returns_iff longProject_isSound rfl rfl {}).1.mp returns).2.2
  exact free longProject_hasObstacle

end AssetAudit
