import AssetAudit.Proofs.Project.Inventory
import AssetAudit.Proofs.Usage.Independence
import AssetAudit.Proofs.Usage.Partition

namespace AssetAudit

/-! The variants of an image set are used or unused together.  They have one name and one set, and
the sources are asked for nothing else; only an exemption looks at the path of a variant. -/

open FileTree

section Mates

variable {asset mate : Asset} (name : asset.name = mate.name)
  (group : asset.catalogGroup = mate.catalogGroup)

include name group

theorem Asset.usageNames_congr : asset.usageNames = mate.usageNames := by
  simp only [usageNames, plainNames, name, group]

theorem Asset.IsUnused.of_mate {usedNames : List String} {sources : List SourceFile}
    (unused : asset.IsUnused usedNames sources) (notExempt : mate.exemption? = none) :
    mate.IsUnused usedNames sources where
  notExempt := notExempt
  unnamed := Asset.usageNames_congr name group ▸ unused.unnamed
  absent := name ▸ unused.absent

end Mates

theorem Inventory.name_of_grouped {workspace : Workspace} {tree : SourceTree}
    {inventory : Inventory} (read : Inventory.read workspace tree = .ok inventory) {asset : Asset}
    (member : asset ∈ inventory.assets) {group : String}
    (grouped : asset.catalogGroup = some group) : asset.name = AssetReading.setName group := by
  obtain ⟨_, _, _, _, _, _, _, _, _, variant⟩ := variant_of_grouped read member grouped
  exact variant.name

/-- One variant of an image set is unused only if all of them are that are not exempt. -/
theorem image_set_unused_as_whole {workspace : Workspace} {root : String} {config : Config}
    {rules : List Rule} {report : AuditReport}
    (audited : audit workspace root config rules = .ok report) {asset : Asset}
    (unused : asset ∈ report.usage.unused) {group : String}
    (grouped : asset.catalogGroup = some group) :
    ∀ mate ∈ report.assets, mate.catalogGroup = some group →
      (mate ∈ report.usage.unused ↔ mate ∉ report.usage.exempt.map Prod.fst) := by
  obtain ⟨-, survey, compliance, surveyed, -, rfl⟩ := audit_eq_ok.mp audited
  obtain ⟨-, read, -⟩ := Survey.read_eq_ok.mp surveyed
  intro mate member mateGrouped
  obtain ⟨listed, isUnused⟩ := Usage.mem_unused.mp unused
  have exempt : mate ∈ (survey.usage survey.extraction config).exempt.map Prod.fst ↔
      mate.exemption?.isSome = true := by
    rw [Survey.usage, Usage.exempt_images, List.mem_filter]
    exact and_iff_right member
  rw [exempt, Option.not_isSome_iff_eq_none]
  constructor
  · exact fun mateUnused => (Usage.mem_unused.mp mateUnused).2.notExempt
  · intro notExempt
    have name : asset.name = mate.name :=
      (Inventory.name_of_grouped read listed grouped).trans
        (Inventory.name_of_grouped read member mateGrouped).symm
    exact Usage.mem_unused.mpr
      ⟨member, isUnused.of_mate name (grouped.trans mateGrouped.symm) notExempt⟩

section Stars

def starsManifest : String :=
  "\x7b\"images\": [\x7b\"filename\": \"snapshot.pdf\"\x7d, \x7b\"filename\": \"star.pdf\"\x7d, " ++
    "\x7b\"filename\": \"star@2x.pdf\", \"scale\": \"2x\"\x7d]\x7d"

/-- An image set with three variants, one of them exempt by its file name. -/
def starsProject : Workspace :=
  ⟨⟨[(["A.xcassets"], .directory), (["A.xcassets", "Star.imageset"], .directory),
    (["A.xcassets", "Star.imageset", "Contents.json"], .file starsManifest.toUTF8.data.toList),
    (["A.xcassets", "Star.imageset", "snapshot.pdf"], .file [120]),
    (["A.xcassets", "Star.imageset", "star.pdf"], .file [120]),
    (["A.xcassets", "Star.imageset", "star@2x.pdf"], .file [120])]⟩, []⟩

def starVariant (fileName : String) (scale : Int) : Asset :=
  ⟨"Star", "A.xcassets/Star.imageset/" ++ fileName, 1, .catalogVariant, "pdf", some scale, none,
    none, none, some "A.xcassets/Star.imageset"⟩

def starVariants : List Asset :=
  [starVariant "snapshot.pdf" 1, starVariant "star.pdf" 1, starVariant "star@2x.pdf" 2]

theorem starsProject_scan :
    SourceTree.scan starsProject "." ({} : Config).fallbackExtensions = .ok setTree :=
  set_scan rfl (by decide) (by decide) (by decide) ⟨rfl, rfl⟩ ⟨rfl, rfl⟩ ⟨rfl, rfl⟩ (by decide)

theorem starsManifest_read :
    Manifest.read starsProject (joinPaths "." "A.xcassets/Star.imageset") =
      .ok [("snapshot.pdf", 1), ("star.pdf", 1), ("star@2x.pdf", 2)] :=
  toOption_eq_some.mp (by decide +kernel)

theorem starsGroup_read :
    GroupReading.read starsProject "." "A.xcassets/Star.imageset" =
      .ok (.variants (starVariants.map fun asset => ⟨asset, none⟩)) := by
  have listed : starsProject.files.list starsProject.directory
      (joinPaths "." "A.xcassets/Star.imageset") =
        .ok ["Contents.json", "snapshot.pdf", "star.pdf", "star@2x.pdf"] :=
    congrArg Except.ok (List.mergeSort_of_pairwise (by decide))
  unfold GroupReading.read
  simp only [starsManifest_read, listed]
  rfl

/-- The picture of a test is exempt, the other two variants of its set are unused together. -/
theorem stars_unused_together : ∃ report, audit starsProject "." {} [] = .ok report ∧
    starVariant "star.pdf" 1 ∈ report.usage.unused ∧
    starVariant "star@2x.pdf" 2 ∈ report.usage.unused ∧
    starVariant "snapshot.pdf" 1 ∉ report.usage.unused := by
  obtain ⟨report, audited, assets, usage⟩ := set_audit starsProject_scan starsGroup_read
  have listed : ∀ asset, asset ∈ report.assets ↔ asset ∈ starVariants := by
    intro asset
    rw [assets]
    simp [setInventory, Inventory.assets, Inventory.readings, GroupReading.readings]
  have unused : starVariant "star.pdf" 1 ∈ report.usage.unused := by
    rw [usage, Usage.mem_unused, ← assets, listed]
    exact ⟨by decide, by decide, by simp, by simp⟩
  have together := image_set_unused_as_whole audited unused rfl
  refine ⟨report, audited, unused, ?_, ?_⟩
  · refine (together _ ((listed _).mpr (by decide)) rfl).mpr ?_
    rw [usage, Usage.exempt_images, List.mem_filter]
    exact not_and_of_not_right _ (by decide)
  · refine mt (together _ ((listed _).mpr (by decide)) rfl).mp (not_not_intro ?_)
    rw [usage, Usage.exempt_images, List.mem_filter, ← assets, listed]
    decide

end Stars

end AssetAudit
