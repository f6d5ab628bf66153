import AssetAudit.Proofs.Project.Scan
import AssetAudit.Proofs.Usage.Growth

namespace AssetAudit

/-! A wider configuration finds more uses of the same images.  More extensions bring in further
text files, which bind nothing and refer to nothing; the other tables make more names of what the
sources say. -/

theorem Category.ofFileName?_widen {narrow wide : List String} (kept : narrow ⊆ wide)
    {fileName : String} {category : Category}
    (recognised : ofFileName? narrow fileName = some category) :
    ofFileName? wide fileName = some category := by
  unfold ofFileName? at recognised ⊢
  simp only at recognised ⊢
  split
  · rename_i scanned
    rw [scanned] at recognised
    exact recognised
  · rename_i unscanned
    rw [unscanned] at recognised
    simp only at recognised
    split at recognised
    · rename_i listed
      rw [if_pos (List.contains_iff_mem.mpr (kept (List.contains_iff_mem.mp listed)))]
      exact recognised
    · cases recognised

/-- A further extension makes no other file than a fallback file. -/
theorem Category.ofFileName?_narrow (narrow : List String) {wide : List String} {fileName : String}
    {category : Category} (recognised : ofFileName? wide fileName = some category) :
    ofFileName? narrow fileName = some category ∨ category = .fallback := by
  unfold ofFileName? at recognised ⊢
  simp only at recognised ⊢
  split at recognised
  · exact Or.inl recognised
  · split at recognised
    · exact Or.inr (Option.some.inj recognised).symm
    · cases recognised

namespace SourceTree

/-- A tree has the same images as another one and more text files, which are only searched for
names. -/
structure GainsFallback (tree wider : SourceTree) : Prop where
  root : wider.root = tree.root
  imagePaths : wider.imagePaths = tree.imagePaths
  catalogGroups : wider.catalogGroups = tree.catalogGroups
  bundleImages : wider.bundleImages = tree.bundleImages
  keeps : ∀ known ∈ tree.textPaths, known ∈ wider.textPaths
  onlyFallback : ∀ known ∈ wider.textPaths, known ∈ tree.textPaths ∨ known.2 = .fallback

variable {workspace : Workspace} {root : String} {narrow wide : List String}

theorem ofVisits_gainsFallback (kept : narrow ⊆ wide) (visits : List Visit) :
    (ofVisits root narrow visits).GainsFallback (ofVisits root wide visits) where
  root := rfl
  imagePaths := rfl
  catalogGroups := rfl
  bundleImages := rfl
  keeps := by
    intro known member
    obtain ⟨place, file, text⟩ := List.mem_filterMap.mp member
    obtain ⟨named, notImage, recognised⟩ := textAt?_eq_some.mp text
    exact List.mem_filterMap.mpr ⟨place, file,
      textAt?_eq_some.mpr ⟨named, notImage, Category.ofFileName?_widen kept recognised⟩⟩
  onlyFallback := by
    intro known member
    obtain ⟨place, file, text⟩ := List.mem_filterMap.mp member
    obtain ⟨named, notImage, recognised⟩ := textAt?_eq_some.mp text
    rcases Category.ofFileName?_narrow narrow recognised with old | new
    · exact Or.inl (List.mem_filterMap.mpr
        ⟨place, file, textAt?_eq_some.mpr ⟨named, notImage, old⟩⟩)
    · exact Or.inr new

theorem scan_widen (kept : narrow ⊆ wide) {tree : SourceTree}
    (scanned : scan workspace root narrow = .ok tree) :
    ∃ wider, scan workspace root wide = .ok wider ∧ tree.GainsFallback wider := by
  obtain ⟨base, located, directory, placed, rfl⟩ := scan_eq_ok.mp scanned
  exact ⟨_, scan_eq_ok.mpr ⟨base, located, directory, placed, rfl⟩, ofVisits_gainsFallback kept _⟩

/-- Why a scan fails has nothing to do with extensions. -/
theorem scan_error {failure : ScanFailure} (scanned : scan workspace root narrow = .error failure) :
    scan workspace root wide = .error failure := by
  rw [scan_eq] at scanned ⊢
  split at scanned
  · exact scanned
  · split at scanned
    · split at scanned
      · cases scanned
      · rename_i directory gone
        rwa [if_pos directory, if_neg gone]
    · rename_i directory
      rwa [if_neg directory]

end SourceTree

theorem Inventory.read_gainsFallback (workspace : Workspace) {tree wider : SourceTree}
    (gains : tree.GainsFallback wider) :
    Inventory.read workspace wider = Inventory.read workspace tree := by
  unfold Inventory.read
  rw [gains.root, gains.imagePaths, gains.catalogGroups]

theorem readSource_category {workspace : Workspace} {root path : String} {category : Category}
    {source : SourceFile} (read : readSource workspace root path category = .ok source) :
    source.category = category := by
  unfold readSource at read
  cases text : workspace.readText (joinPaths root path) with
  | error failure =>
      rw [text] at read
      cases read
  | ok characters =>
      rw [text] at read
      rw [← Except.ok.inj read]

namespace Survey

variable {workspace : Workspace} {root : String} {narrow wide : List String}

/-- A survey holds the same images as another one and more sources, which are only searched for
names. -/
structure GainsFallback (survey wider : Survey) : Prop where
  root : wider.tree.root = survey.tree.root
  assets : wider.assets = survey.assets
  bundleImages : wider.tree.bundleImages = survey.tree.bundleImages
  keeps : ∀ source ∈ survey.sources, source ∈ wider.sources
  onlyFallback : ∀ source ∈ wider.sources, source ∈ survey.sources ∨ source.category = .fallback

theorem read_widen (kept : narrow ⊆ wide) {survey : Survey}
    (surveyed : read workspace root narrow = .ok survey) :
    ∃ wider, read workspace root wide = .ok wider ∧ survey.GainsFallback wider := by
  obtain ⟨scanned, inventoried, readings⟩ := read_eq_ok.mp surveyed
  obtain ⟨tree, rescanned, gains⟩ := SourceTree.scan_widen kept scanned
  let wider : Survey := ⟨tree, survey.inventory, readTexts workspace tree⟩
  have widerReadings : wider.readings = readTexts workspace wider.tree := rfl
  have reinventoried : Inventory.read workspace tree = .ok survey.inventory :=
    (Inventory.read_gainsFallback workspace gains).trans inventoried
  refine ⟨wider, read_eq_ok.mpr ⟨rescanned, reinventoried, rfl⟩, gains.root, rfl,
    gains.bundleImages, ?_, ?_⟩
  · intro source member
    obtain ⟨path, category, listed, read⟩ := (mem_sources readings).mp member
    rw [← gains.root] at read
    exact (mem_sources widerReadings).mpr ⟨path, category, gains.keeps _ listed, read⟩
  · intro source member
    obtain ⟨path, category, listed, read⟩ := (mem_sources widerReadings).mp member
    rcases gains.onlyFallback _ listed with old | new
    · rw [gains.root] at read
      exact Or.inl ((mem_sources readings).mpr ⟨path, category, old, read⟩)
    · exact Or.inr ((readSource_category read).trans new)

theorem read_error (kept : narrow ⊆ wide) {failure : SurveyFailure}
    (surveyed : read workspace root narrow = .error failure) :
    read workspace root wide = .error failure := by
  unfold read at surveyed ⊢
  cases scanned : SourceTree.scan workspace root narrow with
  | error reason =>
      rw [scanned] at surveyed
      rw [SourceTree.scan_error scanned]
      exact surveyed
  | ok tree =>
      obtain ⟨wider, rescanned, gains⟩ := SourceTree.scan_widen kept scanned
      rw [scanned] at surveyed
      rw [rescanned]
      simp only [Except.mapError, bind, Except.bind, Inventory.read_gainsFallback workspace gains]
        at surveyed ⊢
      cases inventoried : Inventory.read workspace tree with
      | error reason =>
          rw [inventoried] at surveyed
          exact surveyed
      | ok inventory =>
          rw [inventoried] at surveyed
          cases surveyed

end Survey

theorem bindings_of_fallback {source : SourceFile} (fallback : source.category = .fallback) :
    Binding.ofSource source = [] := by
  rw [Binding.ofSource, BoundValue.ofSource, fallback]
  exact congrArg (fun bound : List BoundValue =>
    (BindingTable.ofList (bound.map BoundValue.toBinding)).entries) List.mergeSort_nil

/-- A name without values gets none from fallback files. -/
theorem lookup_with_fallback {sources wider : List SourceFile}
    (onlyFallback : ∀ source ∈ wider, source ∈ sources ∨ source.category = .fallback) {key : String}
    (silent : (Extraction.ofScans (sources.map SourceScan.of)).table.lookup key = []) :
    (Extraction.ofScans (wider.map SourceScan.of)).table.lookup key = [] := by
  refine List.eq_nil_iff_forall_not_mem.mpr fun value member => ?_
  obtain ⟨source, among, binding, bound, named, values⟩ := mem_lookup_ofSources.mp member
  rcases onlyFallback source among with old | new
  · have known := mem_lookup_ofSources.mpr ⟨source, old, binding, bound, named, values⟩
    rw [silent] at known
    cases known
  · rw [bindings_of_fallback new] at bound
    cases bound

theorem Survey.GainsFallback.usedNames {survey wider : Survey} (gains : survey.GainsFallback wider)
    {config deeper : Config} (widened : config.IsWidenedBy deeper) :
    ∀ name ∈ survey.extraction.usedNames survey.tree.bundleImages config,
      name ∈ wider.extraction.usedNames wider.tree.bundleImages deeper := by
  have scansKept : ∀ scan ∈ survey.sources.map SourceScan.of,
      scan ∈ wider.sources.map SourceScan.of := by
    intro scan member
    obtain ⟨source, among, rfl⟩ := List.mem_map.mp member
    exact List.mem_map_of_mem (gains.keeps source among)
  intro name used
  rw [gains.bundleImages]
  refine Extraction.usedNames_widen scansKept widened ?_ (fun _ bundled => bundled) used
  intro use _ inner _ key vain value _
  exact Or.inl (lookup_with_fallback gains.onlyFallback (BindingTable.lookup_of_mem_vainKeys vain))

section Audit

variable {workspace : Workspace} {root : String} {rules : List Rule} {config wider : Config}
  (widened : config.IsWidenedBy wider)

include widened

theorem audit_widen (staffed : 1 ≤ wider.workers) {before : AuditReport}
    (audited : audit workspace root config rules = .ok before) :
    ∃ after, audit workspace root wider rules = .ok after ∧
      (∀ asset ∈ after.usage.unused, asset ∈ before.usage.unused) ∧
      after.assets = before.assets ∧ after.usage.exempt = before.usage.exempt := by
  obtain ⟨-, survey, compliance, surveyed, checked, rfl⟩ := audit_eq_ok.mp audited
  obtain ⟨more, read, gains⟩ := Survey.read_widen widened.fallbackExtensions surveyed
  refine ⟨_, audit_eq_ok.mpr
    ⟨staffed, more, compliance, read, by rw [gains.assets, checked], rfl⟩, ?_,
    gains.assets, by simp only [Survey.usage, Usage.of, gains.assets]⟩
  intro asset unused
  have widerUnused : asset ∈ (Usage.of more.assets
      (more.extraction.usedNames more.tree.bundleImages wider) more.sources
      more.extraction.dynamicLookups).unused := unused
  rw [gains.assets] at widerUnused
  exact unused_shrinks (gains.usedNames widened) gains.keeps widerUnused

theorem Survey.readWithWorkers_error_widen (staffed : 1 ≤ wider.workers) {failure : AuditFailure}
    (failed : readWithWorkers workspace root config = .error failure) :
    failure = .noWorkers ∨ readWithWorkers workspace root wider = .error failure := by
  rw [readWithWorkers_of_workers staffed, mapError_eq_error]
  by_cases narrowStaffed : 1 ≤ config.workers
  · rw [readWithWorkers_of_workers narrowStaffed, mapError_eq_error] at failed
    obtain ⟨reason, surveyed, rfl⟩ := failed
    exact Or.inr ⟨reason, read_error widened.fallbackExtensions surveyed, rfl⟩
  · rcases readWithWorkers_of_no_workers workspace root narrowStaffed with
      none | ⟨reason, surveyed, unwalked⟩
    · exact Or.inl (Except.error.inj (failed.symm.trans none))
    · obtain rfl := Except.error.inj (failed.symm.trans unwalked)
      exact Or.inr ⟨.scan reason, read_error widened.fallbackExtensions surveyed, rfl⟩

theorem audit_error_widen (staffed : 1 ≤ wider.workers) {failure : AuditFailure}
    (failed : audit workspace root config rules = .error failure) :
    failure = .noWorkers ∨ audit workspace root wider rules = .error failure := by
  rcases audit_eq_error.mp failed with unread | ⟨survey, read, reason, unchecked, rfl⟩
  · exact (Survey.readWithWorkers_error_widen widened staffed unread).imp_right fun unread =>
      audit_eq_error.mpr (Or.inl unread)
  · obtain ⟨more, reread, gains⟩ :=
      Survey.read_widen widened.fallbackExtensions (Survey.readWithWorkers_eq_ok.mp read).2
    have checkedAlike : runCompliance rules more.assets = .error reason := by
      rw [gains.assets, unchecked]
    exact Or.inr (audit_eq_error.mpr (Or.inr
      ⟨more, Survey.readWithWorkers_eq_ok.mpr ⟨staffed, reread⟩, reason, checkedAlike, rfl⟩))

end Audit

/-- A wider configuration leaves no image unused that was used before.  It finds the same images
and the same exempt ones.  It gives a report wherever the narrower one does, if only it has workers,
and then it fails in the same way. -/
theorem audit_unused_antitone {config wider : Config} (widened : config.IsWidenedBy wider)
    (workspace : Workspace) (root : String) (rules : List Rule) :
    (∀ before after, audit workspace root config rules = .ok before →
      audit workspace root wider rules = .ok after →
        (∀ asset ∈ after.usage.unused, asset ∈ before.usage.unused) ∧
        after.assets = before.assets ∧ after.usage.exempt = before.usage.exempt) ∧
    (∀ before, audit workspace root config rules = .ok before →
      ((∃ after, audit workspace root wider rules = .ok after) ↔ 1 ≤ wider.workers)) ∧
    (1 ≤ wider.workers → ∀ failure, audit workspace root config rules = .error failure →
      failure = .noWorkers ∨ audit workspace root wider rules = .error failure) := by
  refine ⟨?_, ?_, ?_⟩
  · intro before after audited reaudited
    have staffed : 1 ≤ wider.workers := (audit_eq_ok.mp reaudited).1
    obtain ⟨found, again, laws⟩ := audit_widen widened staffed audited
    obtain rfl := Except.ok.inj (reaudited.symm.trans again)
    exact laws
  · intro before audited
    constructor
    · rintro ⟨after, reaudited⟩
      exact (audit_eq_ok.mp reaudited).1
    · intro staffed
      obtain ⟨after, reaudited, -⟩ := audit_widen widened staffed audited
      exact ⟨after, reaudited⟩
  · exact fun staffed failure failed => audit_error_widen widened staffed failed

/-- A configuration that infers nothing and appends next to nothing. -/
def bareConfig : Config where
  inferenceRules := []
  roleSuffixes := ["Icon"]
  assetDirectories := []
  hdSuffixes := ["@2x"]
  maxExpansionDepth := 1

theorem bareConfig_widened : bareConfig.IsWidenedBy {} where
  inferenceRules := List.nil_prefix
  roleSuffixes := by decide
  assetDirectories := by decide
  hdSuffixes := by decide
  fallbackExtensions := List.Subset.refl _
  maxExpansionDepth := by decide

theorem badgeImage_unused_bare (lookups : List DynamicLookup) :
    badgeImage ∈ (Usage.of [badgeImage]
      ((Extraction.ofScans [SourceScan.of badgeScreen]).usedNames [] bareConfig) [badgeScreen]
      lookups).unused := by
  rw [badgeScreen_scan]
  simp only [Usage.unused_of, List.mem_filter, Bool.and_eq_true, Asset.isUnmatched, Bool.not_eq_true']
  refine ⟨by simp, ⟨by decide +kernel, ?_⟩, by decide +kernel⟩
  rw [List.any_eq_false]
  simp only [Extraction.usedNames, usedNames, List.contains_iff_mem, Text.mem_sortedSet]
  decide +kernel

/-- Only the wider configuration infers the name of the badge. -/
theorem badge_used_when_widened :
    bareConfig.IsWidenedBy {} ∧
      ∃ before after, audit badgeProject "." bareConfig [] = .ok before ∧
        audit badgeProject "." {} [] = .ok after ∧
        (∀ asset ∈ after.usage.unused, asset ∈ before.usage.unused) ∧
        badgeImage ∈ before.usage.unused ∧ badgeImage ∉ after.usage.unused := by
  obtain ⟨compliance, checked⟩ := noRules_compliance [badgeImage]
  obtain ⟨problem?, surveyed⟩ := badgeProject_survey
  have audited : audit badgeProject "." bareConfig [] = .ok _ := audit_eq_ok.mpr
    ⟨by decide, _, compliance, surveyed, by rw [badgeAssets, checked], rfl⟩
  have reaudited : audit badgeProject "." {} [] = .ok _ := audit_eq_ok.mpr
    ⟨by decide, _, compliance, surveyed, by rw [badgeAssets, checked], rfl⟩
  obtain ⟨shrinks, -⟩ :=
    (audit_unused_antitone bareConfig_widened badgeProject "." []).1 _ _ audited reaudited
  refine ⟨bareConfig_widened, _, _, audited, reaudited, shrinks, ?_, ?_⟩
  · unfold Survey.usage
    rw [badgeAssets]
    exact badgeImage_unused_bare _
  · unfold Survey.usage
    rw [badgeAssets]
    exact badgeImage_used _

end AssetAudit
