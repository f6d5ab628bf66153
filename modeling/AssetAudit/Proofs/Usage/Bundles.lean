import AssetAudit.Proofs.Project.Inventory
import AssetAudit.Proofs.Usage.Growth
import AssetAudit.Proofs.Usage.Partition

namespace AssetAudit

/-! Images in resource bundles are used.  The walk through a project and the inventory cut a file
name at the same place, so the name under which a bundle offers an image is the name of the
asset. -/

open FileTree

theorem Asset.name_mem_usageNames (asset : Asset) : asset.name ∈ asset.usageNames := by
  have plain : asset.name.toList ∈ asset.plainNames := by simp [Asset.plainNames]
  exact (Asset.mem_usageNames_of_plain plain).1

theorem Usage.not_unused_of_named {assets : List Asset} {usedNames : List String}
    {sources : List SourceFile} {lookups : List DynamicLookup} {asset : Asset}
    (named : asset.name ∈ usedNames) :
    asset ∉ (Usage.of assets usedNames sources lookups).unused :=
  fun unused => (mem_unused.mp unused).2.unnamed asset.name asset.name_mem_usageNames named

section Scanned

variable {workspace : Workspace} {tree : SourceTree} {inventory : Inventory} {root : String}
  {fallbackExtensions : List String} {base : Location}
  (proper : workspace.files.IsProper)
  (located : workspace.files.locate workspace.directory tree.root = .ok base)
  (classifies : tree.Classifies workspace.files root fallbackExtensions base)

include classifies

theorem SourceTree.Classifies.stem_mem_bundleImages {path : String} (image : path ∈ tree.imagePaths)
    (bundled : (pathParts path).dropLast.any isBundle = true) :
    FileName.stem (FileName.last path) ∈ tree.bundleImages := by
  rw [classifies.bundleImages]
  exact List.mem_map.mpr ⟨path, List.mem_filter.mpr ⟨image, bundled⟩, rfl⟩

include proper located

/-- An asset outside all catalogs stands for an image of the tree. -/
theorem Inventory.image_of_mem (read : Inventory.read workspace tree = .ok inventory)
    {asset : Asset} (member : asset ∈ inventory.assets)
    (outside : (pathParts asset.path).dropLast.any isCatalog = false) :
    asset.path ∈ tree.imagePaths ∧ AssetReading.IsStandalone asset asset.path := by
  obtain ⟨reading, among, rfl⟩ := mem_assets.mp member
  rcases mem_readings.mp among with alone | ⟨group, taken, held, within⟩
  · obtain ⟨path, image, taking⟩ := (mem_standalone read).mp alone
    have standalone := AssetReading.standalone?_asset taking
    rw [standalone.located]
    exact ⟨image, standalone⟩
  · obtain ⟨listed, taking⟩ := (mem_groups read).mp held
    obtain ⟨place, fileName, here⟩ :=
      variant_place proper located classifies listed taking within
    rw [here.located, pathParts_relativePath (by simp) here.proper, List.dropLast_concat,
      here.isGroup.inCatalog] at outside
    cases outside

end Scanned

/-- Every image in a resource bundle outside all catalogs is in the report, under a name that counts
as used.  No image with a bundle on its path is unused, unless a catalog is on the path as well. -/
theorem bundled_images_used {workspace : Workspace} (proper : workspace.files.IsProper)
    {root : String} {config : Config} {rules : List Rule} {report : AuditReport}
    (audited : audit workspace root config rules = .ok report) :
    ∃ base, workspace.files.locate workspace.directory root = .ok base ∧
      (∀ place, IsOpenFile workspace.files root base place → isAssetFile (fileNameOf place) = true →
        place.dropLast.any isBundle = true →
          ∃ asset ∈ report.assets, AssetReading.IsStandalone asset (relativePath place) ∧
            asset.name = FileName.stem (fileNameOf place) ∧
            asset.name ∈ report.usage.usedNames) ∧
      ∀ asset ∈ report.usage.unused, (pathParts asset.path).dropLast.any isBundle = true →
        (pathParts asset.path).dropLast.any isCatalog = true := by
  obtain ⟨-, survey, compliance, surveyed, -, rfl⟩ := audit_eq_ok.mp audited
  obtain ⟨scanned, read, -⟩ := Survey.read_eq_ok.mp surveyed
  obtain ⟨base, located, directory, -, same⟩ := SourceTree.scan_eq_ok.mp scanned
  have classifies : survey.tree.Classifies workspace.files root config.fallbackExtensions base := by
    rw [same]
    exact SourceTree.classifies_ofVisits proper (locate_eq_ok located).1 directory
  have used {asset : Asset} {path : String} (standalone : AssetReading.IsStandalone asset path)
      (image : path ∈ survey.tree.imagePaths)
      (bundled : (pathParts path).dropLast.any isBundle = true) :
      asset.name ∈ survey.extraction.usedNames survey.tree.bundleImages config := by
    rw [standalone.name, Extraction.usedNames, mem_usedNames]
    exact Or.inr (Or.inr (classifies.stem_mem_bundleImages image bundled))
  refine ⟨base, located, ?_, ?_⟩
  · intro place file isImage bundled
    have nonempty := file.nonempty proper directory
    have named := file.proper proper
    have image := (classifies.images _).mpr ⟨place, rfl, file, isImage⟩
    have last := last_relativePath nonempty named
    rw [← last] at isImage
    obtain ⟨reading, among, standalone⟩ := Inventory.standalone_taken read image isImage
    refine ⟨reading.asset, Inventory.mem_assets.mpr
      ⟨reading, Inventory.mem_readings.mpr (Or.inl among), rfl⟩, standalone, ?_, ?_⟩
    · rw [standalone.name, last]
    · exact used standalone image ((pathParts_relativePath nonempty named).symm ▸ bundled)
  · intro asset unused bundled
    have listed := Usage.mem_of_unused unused
    rw [← classifies.rootKept] at located
    cases outside : (pathParts asset.path).dropLast.any isCatalog with
    | true => rfl
    | false =>
        obtain ⟨image, standalone⟩ :=
          Inventory.image_of_mem proper located classifies read listed outside
        exact absurd unused (Usage.not_unused_of_named (used standalone image bundled))

section Kit

/-- A bundle with an image whose name has dots at its beginning and inside, and an extension in
capital letters. -/
def kitProject : Workspace :=
  ⟨⟨[(["Kit.bundle"], .directory), (["Kit.bundle", "..logo.x.PNG"], .file [120])]⟩, []⟩

def kitTree : SourceTree := ⟨".", [], ["Kit.bundle/..logo.x.PNG"], [], ["..logo.x"]⟩

theorem kitProject_walk : kitProject.files.walk "." [] =
    [⟨[], []⟩, ⟨["Kit.bundle"], ["..logo.x.PNG"]⟩] := by
  have levels : kitProject.files.depth + 1 = 1 + 1 + 1 := by decide
  have bundle : kitProject.files.walkFrom "." [] (1 + 1) ["Kit.bundle"] =
      [⟨["Kit.bundle"], ["..logo.x.PNG"]⟩] :=
    walkFrom_listed (by decide) rfl rfl (by decide) (by decide)
  have top : kitProject.files.walkFrom "." [] (1 + 1 + 1) [] =
      ⟨[], []⟩ :: ["Kit.bundle"].flatMap fun name =>
        kitProject.files.walkFrom "." [] (1 + 1) ([] ++ [name]) :=
    walkFrom_listed rfl rfl rfl (by decide) (by decide)
  rw [walk, levels, top, List.flatMap_singleton, List.nil_append, bundle]

theorem kitProject_audit : ∃ report, audit kitProject "." {} [] = .ok report := by
  have tree : SourceTree.ofVisits "." ({} : Config).fallbackExtensions
      (kitProject.files.walk "." []) = kitTree := by
    rw [kitProject_walk]
    decide +kernel
  have scanned : SourceTree.scan kitProject "." ({} : Config).fallbackExtensions = .ok kitTree :=
    SourceTree.scan_eq_ok.mpr ⟨[], rfl, by decide, by decide, tree.symm⟩
  obtain ⟨inventory, read⟩ : ∃ inventory, Inventory.read kitProject kitTree = .ok inventory :=
    ⟨_, rfl⟩
  have surveyed : Survey.read kitProject "." ({} : Config).fallbackExtensions =
      .ok ⟨kitTree, inventory, Survey.readTexts kitProject kitTree⟩ :=
    Survey.read_eq_ok.mpr ⟨scanned, read, rfl⟩
  obtain ⟨compliance, checked⟩ := noRules_compliance inventory.assets
  exact ⟨_, audit_eq_ok.mpr ⟨by decide, _, compliance, surveyed, checked, rfl⟩⟩

theorem kitImage_used :
    kitProject.files.IsProper ∧ ∃ report, audit kitProject "." {} [] = .ok report ∧
      (∃ asset ∈ report.assets, AssetReading.IsStandalone asset "Kit.bundle/..logo.x.PNG" ∧
        asset.name = "..logo.x" ∧ asset.name ∈ report.usage.usedNames) ∧
      ∀ asset ∈ report.usage.unused, asset.path ≠ "Kit.bundle/..logo.x.PNG" := by
  have proper : kitProject.files.IsProper := by decide
  obtain ⟨report, audited⟩ := kitProject_audit
  obtain ⟨base, located, bundled, unused⟩ := bundled_images_used proper audited
  obtain rfl : [] = base := Except.ok.inj located
  have file : IsOpenFile kitProject.files "." [] ["Kit.bundle", "..logo.x.PNG"] :=
    ⟨⟨[120], by decide⟩, by decide, by decide⟩
  have stem : FileName.stem (fileNameOf ["Kit.bundle", "..logo.x.PNG"]) = "..logo.x" := by
    decide +kernel
  refine ⟨proper, report, audited, ?_, fun asset member same => ?_⟩
  · obtain ⟨asset, member, standalone, name, used⟩ :=
      bundled ["Kit.bundle", "..logo.x.PNG"] file (by decide +kernel) (by decide)
    exact ⟨asset, member, standalone, name.trans stem, used⟩
  · have outside := unused asset member
    rw [same] at outside
    revert outside
    decide +kernel

end Kit

end AssetAudit
