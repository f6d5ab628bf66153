import AssetAudit.Proofs.Project.WithoutContent
import AssetAudit.Proofs.Usage.Growth

namespace AssetAudit

/-! The two halves of an audit do not meddle with each other.  What it says of the images for
themselves does not depend on the texts, and what it says of their use does not depend on the bytes
of the images. -/

open FileTree

/-- What two reports say of the images for themselves is the same. -/
structure AuditReport.HasSameImages (report other : AuditReport) : Prop where
  assets : other.assets = report.assets
  compliance : other.compliance = report.compliance
  exempt : other.usage.exempt = report.usage.exempt

/-- What two reports say of the use of the images is the same. -/
structure AuditReport.HasSameUsage (report other : AuditReport) : Prop where
  usedNames : other.usage.usedNames = report.usage.usedNames
  unused : other.usage.unused.map (·.path) = report.usage.unused.map (·.path)
  exempt : other.usage.exempt.map (fun (asset, reason) => (asset.path, reason)) =
    report.usage.exempt.map fun (asset, reason) => (asset.path, reason)
  dynamicLookups : other.usage.dynamicLookups = report.usage.dynamicLookups
  skippedFiles : other.skippedFiles = report.skippedFiles

namespace Usage

/-- Whether an image is used can be told without its bytes. -/
theorem unused_paths (assets : List Asset) (usedNames : List String) (sources : List SourceFile)
    (dynamicLookups : List DynamicLookup) :
    (Usage.of assets usedNames sources dynamicLookups).unused.map (·.path) =
      ((assets.map Asset.withoutContent).filter fun asset =>
        asset.isUnmatched usedNames && !occursInSources sources asset.name).map (·.path) := by
  rw [unused_of, List.filter_map, List.map_map]
  rfl

theorem exempt_paths (assets : List Asset) (usedNames : List String) (sources : List SourceFile)
    (dynamicLookups : List DynamicLookup) :
    (Usage.of assets usedNames sources dynamicLookups).exempt.map
        (fun (asset, reason) => (asset.path, reason)) =
      (assets.map Asset.withoutContent).filterMap fun asset =>
        asset.exemption?.map fun exemption => (asset.path, exemption.reason) := by
  simp only [Usage.of, List.map_filterMap, List.filterMap_map, Option.map_map]
  rfl

end Usage

/-- The survey of a project takes its tree, its images and its texts from the directory. -/
theorem Workspace.HasProject.survey_eq {workspace : Workspace} {root : String} {base : Location}
    (project : workspace.HasProject root base) {fallbackExtensions : List String} {survey : Survey}
    (surveyed : Survey.read workspace root fallbackExtensions = .ok survey) :
    survey.tree = .ofVisits root fallbackExtensions (workspace.files.walk root base) ∧
      Inventory.read workspace
        (.ofVisits root fallbackExtensions (workspace.files.walk root base)) =
          .ok survey.inventory ∧
      survey.readings = Survey.readTexts workspace
        (.ofVisits root fallbackExtensions (workspace.files.walk root base)) := by
  obtain ⟨scanned, read, readings⟩ := Survey.read_eq_ok.mp surveyed
  have tree := project.scan_eq scanned
  rw [tree] at read readings
  exact ⟨tree, read, readings⟩

section Surveys

variable {workspace other : Workspace} {root : String} {base otherBase : Location}
  (project : workspace.HasProject root base) (otherProject : other.HasProject root otherBase)
  {fallbackExtensions : List String} {survey otherSurvey : Survey}
  (surveyed : Survey.read workspace root fallbackExtensions = .ok survey)
  (otherSurveyed : Survey.read other root fallbackExtensions = .ok otherSurvey)

include project otherProject surveyed otherSurveyed

theorem assets_shared (shares : SharesImages workspace.files other.files base otherBase) :
    otherSurvey.assets = survey.assets := by
  obtain ⟨-, read, -⟩ := project.survey_eq surveyed
  obtain ⟨-, otherRead, -⟩ := otherProject.survey_eq otherSurveyed
  have same := inventory_shared project otherProject shares fallbackExtensions
  rw [read, otherRead] at same
  rw [Survey.assets, Survey.assets, Except.ok.inj same]

variable (shares : SharesTexts workspace.files other.files fallbackExtensions base otherBase)

include shares

theorem readings_shared : otherSurvey.readings = survey.readings := by
  obtain ⟨-, -, readings⟩ := project.survey_eq surveyed
  obtain ⟨-, -, otherReadings⟩ := otherProject.survey_eq otherSurveyed
  rw [readings, otherReadings, readTexts_shared project otherProject shares]

theorem bundleImages_shared : otherSurvey.tree.bundleImages = survey.tree.bundleImages := by
  obtain ⟨tree, -, -⟩ := project.survey_eq surveyed
  obtain ⟨otherTree, -, -⟩ := otherProject.survey_eq otherSurveyed
  simp only [tree, otherTree, SourceTree.ofVisits, files_shared project otherProject shares]

theorem assets_withoutContent
    (directories : SharesImageDirectories workspace other root base otherBase) :
    otherSurvey.assets.map Asset.withoutContent = survey.assets.map Asset.withoutContent := by
  obtain ⟨-, read, -⟩ := project.survey_eq surveyed
  obtain ⟨-, otherRead, -⟩ := otherProject.survey_eq otherSurveyed
  exact inventory_withoutContent project otherProject shares directories read otherRead

end Surveys

/-- A new text leaves the images and the catalogs as they are. -/
theorem TextAddition.sharesImages {workspace : Workspace} {root : String}
    {fallbackExtensions : List String} (addition : TextAddition workspace root fallbackExtensions)
    (nonempty : addition.place ≠ []) :
    SharesImages workspace.files addition.applied.files addition.base addition.base where
  images place _ image content := by
    refine ⟨addition.entries_kept _, fun listed => ?_⟩
    rcases addition.mem_files nonempty listed with old | ⟨rfl, -⟩ | ⟨-, other⟩
    · exact old
    · rw [addition.notImage] at image
      cases image
    · cases other
  catalogs place within entry := by
    obtain ⟨name, above, catalog⟩ := List.any_eq_true.mp within
    refine ⟨addition.entries_kept _, fun listed => ?_⟩
    rcases addition.mem_files nonempty listed with old | ⟨rfl, -⟩ | ⟨onWay, -⟩
    · exact old
    · rw [addition.no_catalog_above above] at catalog
      cases catalog
    · rw [addition.no_catalog_above (onWay.subset (List.dropLast_subset place above))] at catalog
      cases catalog

section Dot

/-- An image in a file that holds no image. -/
def dotProject (content : List UInt8) : Workspace := ⟨⟨[(["dot.png"], .file content)]⟩, []⟩

theorem dotProject_hasProject (content : List UInt8) :
    (dotProject content).HasProject "." [] where
  proper :=
    { nonempty := by simp [dotProject]
      named := by
        have named : IsProperName "dot.png" := by decide
        simp [dotProject, named]
      nested := by
        intro entry member
        obtain rfl := List.mem_singleton.mp member
        rfl
      distinct := by simp [dotProject] }
  located := rfl
  directory := rfl

def dotTree : SourceTree := ⟨".", [], ["dot.png"], [], []⟩

theorem dotProject_scan (content : List UInt8) :
    SourceTree.scan (dotProject content) "." ({} : Config).fallbackExtensions =
      .ok dotTree := by
  have walk : (dotProject content).files.walk "." [] = [⟨[], ["dot.png"]⟩] :=
    walk_flat "." rfl rfl (by decide)
  refine SourceTree.scan_eq_ok.mpr ⟨[], rfl, rfl, rfl, ?_⟩
  rw [walk]
  decide

section Unidentified

variable {content : List UInt8} (unidentified : Image.Metadata.ofBytes content = .error .unidentified)

include unidentified

theorem dotImage_read : ∃ reading,
    AssetReading.standalone? (dotProject content) "." "dot.png" = .ok (some reading) := by
  have bytes : (dotProject content).files.content (dotProject content).directory
      (joinPaths "." "dot.png") = .ok content := rfl
  have format : ImageFormat.ofFileName? (FileName.last "dot.png") = some .png := by
    decide
  have metadata : ImageFormat.png.metadata? (dotProject content) (joinPaths "." "dot.png") =
      .error (.content .unidentified) := by
    unfold ImageFormat.metadata? imageMetadata
    simp only [bytes, unidentified]
    rfl
  unfold AssetReading.standalone? AssetReading.ofFile
  simp only [format, metadata]
  exact ⟨_, rfl⟩

theorem dotProject_survey : ∃ survey,
    Survey.read (dotProject content) "." ({} : Config).fallbackExtensions = .ok survey := by
  obtain ⟨reading, taken⟩ := dotImage_read unidentified
  have inventoried : Inventory.read (dotProject content) dotTree = .ok ⟨[reading], []⟩ :=
    Inventory.read_eq_ok.mpr ⟨[some reading], mapM_cons_eq_ok.mpr ⟨_, [], taken, rfl, rfl⟩, rfl, rfl⟩
  exact ⟨⟨_, _, Survey.readTexts (dotProject content) dotTree⟩,
    Survey.read_eq_ok.mpr ⟨dotProject_scan content, inventoried, rfl⟩⟩

theorem dotProject_audit : ∃ report, audit (dotProject content) "." {} [] = .ok report := by
  obtain ⟨survey, surveyed⟩ := dotProject_survey unidentified
  obtain ⟨compliance, checked⟩ := noRules_compliance survey.assets
  exact ⟨_, audit_eq_ok.mpr ⟨by decide, survey, compliance, surveyed, checked, rfl⟩⟩

end Unidentified

theorem dotProject_sharesTexts (content otherContent : List UInt8) :
    SharesTexts (dotProject content).files (dotProject otherContent).files
      ({} : Config).fallbackExtensions [] [] where
  paths place := by simp [dotProject]
  texts place _ text stored := by
    have apart : place ≠ ["dot.png"] := by
      rintro rfl
      revert text
      decide
    simp [dotProject, apart]
  manifests place _ stored := by
    have apart : place ++ [Manifest.fileName] ≠ ["dot.png"] := by
      intro same
      have last := congrArg List.getLast? same
      rw [List.getLast?_concat] at last
      exact absurd last (by decide)
    simp [dotProject, apart]

theorem dotProject_sharesImageDirectories (content otherContent : List UInt8) :
    SharesImageDirectories (dotProject content) (dotProject otherContent) "." [] [] := by
  intro place name scales scale _ _ _ _ _
  simp [dotProject]

end Dot

section Folder

def largeManifest : String := "\x7b\"images\": [\x7b\"filename\": \"star_large.png\"\x7d]\x7d"

def setEntries : List (Location × Entry) :=
  [(["A.xcassets"], .directory), (["A.xcassets", "Star.imageset"], .directory),
    (["A.xcassets", "Star.imageset", "Contents.json"], .file largeManifest.toUTF8.data.toList)]

/-- An image set without an image. -/
def setProject : Workspace := ⟨⟨setEntries⟩, []⟩

/-- The same files, and an empty directory in the place of the image. -/
def folderProject : Workspace :=
  ⟨⟨setEntries ++ [(["A.xcassets", "Star.imageset", "star_large.png"], .directory)]⟩, []⟩

def setTree : SourceTree := ⟨".", [], [], ["A.xcassets/Star.imageset"], []⟩

def folderImage : Asset :=
  ⟨"Star", "A.xcassets/Star.imageset/star_large.png", 4096, .catalogVariant, "png", some 1, none,
    none, none, some "A.xcassets/Star.imageset"⟩

/-- What a walk through one catalog with one image set comes to, whatever is in the set. -/
theorem ofVisits_set (names : List String) :
    SourceTree.ofVisits "." ({} : Config).fallbackExtensions
      [⟨[], []⟩, ⟨["A.xcassets"], []⟩, ⟨["A.xcassets", "Star.imageset"], names⟩] = setTree := by
  have catalog : isCatalog "A.xcassets" = true := by decide
  have imageSet : isImageSet "Star.imageset" = true := by decide
  have notImageSet : isImageSet "A.xcassets" = false := by decide
  simp [SourceTree.ofVisits, filesOutsideCatalogs, Visit.isGroup, Visit.isInCatalog, Visit.files,
    catalog, imageSet, notImageSet, setTree, fileNameOf, relativePath]

theorem set_scan {workspace : Workspace} {names : List String}
    (located : workspace.files.locate workspace.directory "." = .ok [])
    (directory : workspace.files.isDirectory [] = true)
    (placed : (workspace.place? ".").isSome = true) (depth : workspace.files.depth = 3)
    (top : (workspace.files.children []).filterMap fileName? = [] ∧
      (workspace.files.children []).filterMap openDirectory? = ["A.xcassets"])
    (catalog : (workspace.files.children ["A.xcassets"]).filterMap fileName? = [] ∧
      (workspace.files.children ["A.xcassets"]).filterMap openDirectory? = ["Star.imageset"])
    (set : (workspace.files.children ["A.xcassets", "Star.imageset"]).filterMap fileName? = names ∧
      (workspace.files.children ["A.xcassets", "Star.imageset"]).filterMap openDirectory? = [])
    (ascend : names.Pairwise fun first second => decide (first ≤ second)) :
    SourceTree.scan workspace "." ({} : Config).fallbackExtensions = .ok setTree := by
  have inSet : workspace.files.walkFrom "." [] (1 + 1) ["A.xcassets", "Star.imageset"] =
      [⟨["A.xcassets", "Star.imageset"], names⟩] :=
    walkFrom_listed rfl set.1 set.2 ascend .nil
  have inCatalog : workspace.files.walkFrom "." [] (1 + 1 + 1) ["A.xcassets"] =
      ⟨["A.xcassets"], []⟩ :: ["Star.imageset"].flatMap fun name =>
        workspace.files.walkFrom "." [] (1 + 1) (["A.xcassets"] ++ [name]) :=
    walkFrom_listed (by decide) catalog.1 catalog.2 (by decide) (by decide)
  have atTop : workspace.files.walkFrom "." [] (1 + 1 + 1 + 1) [] =
      ⟨[], []⟩ :: ["A.xcassets"].flatMap fun name =>
        workspace.files.walkFrom "." [] (1 + 1 + 1) ([] ++ [name]) :=
    walkFrom_listed rfl top.1 top.2 .nil (by decide)
  refine SourceTree.scan_eq_ok.mpr ⟨[], located, directory, placed, ?_⟩
  rw [FileTree.walk, depth, atTop, List.flatMap_singleton, List.nil_append, inCatalog,
    List.flatMap_singleton, List.singleton_append, inSet, ofVisits_set]

theorem setProject_scan :
    SourceTree.scan setProject "." ({} : Config).fallbackExtensions = .ok setTree :=
  set_scan rfl (by decide) (by decide) (by decide) ⟨rfl, rfl⟩ ⟨rfl, rfl⟩ ⟨rfl, rfl⟩ (by decide)

theorem setManifest_read : Manifest.read setProject (joinPaths "." "A.xcassets/Star.imageset") =
    .ok [("star_large.png", 1)] :=
  toOption_eq_some.mp (by decide)

theorem setGroup_read :
    GroupReading.read setProject "." "A.xcassets/Star.imageset" = .ok (.variants []) := by
  have listed : setProject.files.list setProject.directory
      (joinPaths "." "A.xcassets/Star.imageset") = .ok ["Contents.json"] :=
    congrArg Except.ok (List.mergeSort_of_pairwise (by decide))
  unfold GroupReading.read
  simp only [setManifest_read, listed]
  rfl

theorem setProject_hasProject : setProject.HasProject "." [] := ⟨by decide, rfl, rfl⟩

theorem folderProject_hasProject : folderProject.HasProject "." [] := ⟨by decide, rfl, rfl⟩

theorem setProject_sharesTexts : SharesTexts setProject.files folderProject.files
    ({} : Config).fallbackExtensions [] [] := by
  have files : ∀ place content, (place, Entry.file content) ∈ setProject.files.entries ↔
      (place, Entry.file content) ∈ folderProject.files.entries := by
    simp [setProject, folderProject]
  exact ⟨fun place => exists_congr (files place), fun place _ _ => files place,
    fun place _ => files _⟩

theorem folderProject_scan :
    SourceTree.scan folderProject "." ({} : Config).fallbackExtensions = .ok setTree := by
  have files := files_shared setProject_hasProject folderProject_hasProject setProject_sharesTexts
  have groups := groups_eq setProject_hasProject folderProject_hasProject fun place group => by
    have apart : place ≠ ["A.xcassets", "Star.imageset", "star_large.png"] := by
      rintro rfl
      revert group
      decide
    simp [setProject, folderProject, apart]
  have tree := setProject_hasProject.scan_eq setProject_scan
  rw [← SourceTree.ofVisits_congr files groups] at tree
  exact SourceTree.scan_eq_ok.mpr ⟨[], rfl, by decide, by decide, tree⟩

theorem folderManifest_read :
    Manifest.read folderProject (joinPaths "." "A.xcassets/Star.imageset") =
      .ok [("star_large.png", 1)] :=
  toOption_eq_some.mp (by decide)

theorem folderGroup_read : ∃ problem?,
    GroupReading.read folderProject "." "A.xcassets/Star.imageset" =
      .ok (.variants [⟨folderImage, problem?⟩]) := by
  have listed : folderProject.files.list folderProject.directory
      (joinPaths "." "A.xcassets/Star.imageset") = .ok ["Contents.json", "star_large.png"] :=
    congrArg Except.ok (List.mergeSort_of_pairwise (by decide))
  refine ⟨some (.access .isADirectory), ?_⟩
  unfold GroupReading.read
  simp only [folderManifest_read, listed]
  rfl

def setInventory (readings : List AssetReading) : Inventory :=
  ⟨[], [("A.xcassets/Star.imageset", .variants readings)]⟩

/-- An audit of a project without texts and with one image set. -/
theorem set_audit {workspace : Workspace} {readings : List AssetReading}
    (scanned : SourceTree.scan workspace "." ({} : Config).fallbackExtensions = .ok setTree)
    (taken : GroupReading.read workspace "." "A.xcassets/Star.imageset" =
      .ok (.variants readings)) :
    ∃ report, audit workspace "." {} [] = .ok report ∧
      report.assets = (setInventory readings).assets ∧
      report.usage = .of (setInventory readings).assets [] [] [] := by
  have inventoried : Inventory.read workspace setTree = .ok (setInventory readings) :=
    Inventory.read_eq_ok.mpr ⟨[], rfl,
      mapM_cons_eq_ok.mpr ⟨_, [], Inventory.group_eq_ok.mpr ⟨_, taken, rfl⟩, rfl, rfl⟩, rfl⟩
  have noTexts : Survey.readTexts workspace setTree = [] := by
    rw [Survey.readTexts, Survey.sortedTexts, setTree, List.mergeSort_nil]
    rfl
  have surveyed : Survey.read workspace "." ({} : Config).fallbackExtensions =
      .ok ⟨setTree, setInventory readings, []⟩ :=
    Survey.read_eq_ok.mpr ⟨scanned, inventoried, noTexts.symm⟩
  have noNames : (Extraction.ofScans []).usedNames [] {} = [] := by
    rw [Extraction.usedNames, usedNames, Text.sortedSet, Text.sorted]
    exact congrArg Text.dropRepeats List.mergeSort_nil
  obtain ⟨compliance, checked⟩ := noRules_compliance (setInventory readings).assets
  refine ⟨_, audit_eq_ok.mpr ⟨by decide, _, compliance, surveyed, checked, rfl⟩, rfl, ?_⟩
  show Usage.of _ ((Extraction.ofScans []).usedNames [] {}) [] [] = _
  rw [noNames]
  rfl

end Folder

end AssetAudit
