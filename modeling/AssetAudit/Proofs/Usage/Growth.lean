import AssetAudit.Proofs.Project.AuditOutcome
import AssetAudit.Proofs.Project.SurveyGrowth
import AssetAudit.Proofs.Usage.UsedNames

namespace AssetAudit

/-! What a further source does to the verdict on the images.  Its literals, its templates, its text
and its values for names that have some already can only make more images used.  A name that it
binds first is different: the values of that name take the place of the answer that a placeholder
had from a later name or from the inference table. -/

/-- Where the source binds a name that a placeholder asked for in vain, it has all the values that
the placeholder got instead. -/
def Extraction.IsPreservedBy (extraction : Extraction) (config : Config)
    (source : SourceFile) : Prop :=
  ∀ use ∈ extraction.templates, ∀ inner,
    use.template.Meets extraction.table config inner →
      ∀ key ∈ extraction.table.vainKeys inner.placeholder,
        ∀ binding ∈ Binding.ofSource source, binding.identifier = key →
          ∀ value ∈ inner.values extraction.table config, value ∈ binding.values

/-- The values that sources bind to a name. -/
theorem mem_lookup_ofSources {sources : List SourceFile} {key value : String} :
    value ∈ (Extraction.ofScans (sources.map SourceScan.of)).table.lookup key ↔
      ∃ source ∈ sources, ∃ binding ∈ Binding.ofSource source,
        binding.identifier = key ∧ value ∈ binding.values := by
  simp only [Extraction.ofScans, BindingTable.mem_lookup_ofList, List.flatMap_map,
    List.mem_flatMap]
  constructor
  · intro found
    obtain ⟨binding, ⟨source, member, bound⟩, values⟩ := found
    exact ⟨source, member, binding, bound, values⟩
  · intro found
    obtain ⟨source, member, binding, bound, values⟩ := found
    exact ⟨binding, ⟨source, member, bound⟩, values⟩

/-- A name without values gets none from one more source, or the values which that source binds. -/
theorem lookup_with_source {sources wider : List SourceFile} {added : SourceFile}
    (onlyAdds : ∀ source ∈ wider, source ∈ sources ∨ source = added) {key value : String}
    (covers : ∀ binding ∈ Binding.ofSource added, binding.identifier = key → value ∈ binding.values)
    (silent : (Extraction.ofScans (sources.map SourceScan.of)).table.lookup key = []) :
    (Extraction.ofScans (wider.map SourceScan.of)).table.lookup key = [] ∨
      value ∈ (Extraction.ofScans (wider.map SourceScan.of)).table.lookup key := by
  by_cases none : (Extraction.ofScans (wider.map SourceScan.of)).table.lookup key = []
  · exact Or.inl none
  · obtain ⟨other, member⟩ := List.exists_mem_of_ne_nil _ none
    obtain ⟨source, read, binding, bound, named, found⟩ := mem_lookup_ofSources.mp member
    rcases onlyAdds source read with old | rfl
    · have known := mem_lookup_ofSources.mpr ⟨source, old, binding, bound, named, found⟩
      rw [silent] at known
      cases known
    · have covered := covers binding bound named
      exact Or.inr (mem_lookup_ofSources.mpr ⟨source, read, binding, bound, named, covered⟩)

/-- A new text file leaves no image unused that was used, unless it takes a value from a placeholder
by binding a name that was asked for in vain before. -/
theorem audit_unused_shrinks {workspace : Workspace} (proper : workspace.files.IsProper)
    {root : String} {config : Config} {rules : List Rule} {survey : Survey} {before : AuditReport}
    (surveyed : Survey.read workspace root config.fallbackExtensions = .ok survey)
    (audited : audit workspace root config rules = .ok before)
    (addition : TextAddition workspace root config.fallbackExtensions)
    (preserved : survey.extraction.IsPreservedBy config addition.source) :
    ∃ after, audit addition.applied root config rules = .ok after ∧
      ∀ asset ∈ after.usage.unused, asset ∈ before.usage.unused := by
  obtain ⟨staffed, same, compliance, resurveyed, checked, rfl⟩ := audit_eq_ok.mp audited
  obtain rfl := Except.ok.inj (surveyed.symm.trans resurveyed)
  obtain ⟨wider, read, assets, bundleImages, kept, onlyAdds⟩ := addition.survey proper surveyed
  refine ⟨_, audit_eq_ok.mpr ⟨staffed, wider, compliance, read, by rw [assets, checked], rfl⟩, ?_⟩
  have scansKept : ∀ scan ∈ survey.sources.map SourceScan.of,
      scan ∈ wider.sources.map SourceScan.of := by
    intro scan member
    obtain ⟨source, among, rfl⟩ := List.mem_map.mp member
    exact List.mem_map_of_mem (kept source among)
  have namesKept : ∀ name ∈ survey.extraction.usedNames survey.tree.bundleImages config,
      name ∈ wider.extraction.usedNames wider.tree.bundleImages config := by
    intro name used
    rw [bundleImages]
    refine Extraction.usedNames_grow scansKept ?_ (fun _ bundled => bundled) used
    intro use detected inner met key vain value bound
    exact lookup_with_source onlyAdds
      (fun binding among named => preserved use detected inner met key vain binding among named
        value bound)
      (BindingTable.lookup_of_mem_vainKeys vain)
  intro asset unused
  have widerUnused : asset ∈ (Usage.of wider.assets
      (wider.extraction.usedNames wider.tree.bundleImages config) wider.sources
      wider.extraction.dynamicLookups).unused := unused
  rw [assets] at widerUnused
  exact unused_shrinks namesKept kept widerUnused

section Badge

/-- A screen that asks for a badge by a name which the inference table completes. -/
def badgeScreen : SourceFile := ⟨"Home.swift", .swift, "Image(\"badge_\\(deviceKind)\")"⟩

def badgeImage : Asset :=
  ⟨"badge_iPhone", "badge_iPhone.png", 1, .png, "png", some 1, none, none, none, none⟩

def badgeEntries : List (Location × Entry) :=
  [(["Home.swift"], .file badgeScreen.text.toUTF8.data.toList), (["badge_iPhone.png"], .file [120])]

def badgeProject : Workspace := ⟨⟨badgeEntries⟩, []⟩

/-- A source that binds the name in the placeholder, to a value without a badge. -/
def kindSource : SourceFile := ⟨"kind.swift", .swift, "let deviceKind = \"Phone\""⟩

def kindAddition : TextAddition badgeProject "." ({} : Config).fallbackExtensions where
  base := []
  place := ["kind.swift"]
  content := kindSource.text.toUTF8.data.toList
  category := .swift
  text := kindSource.text.toList
  located := rfl
  named := by decide
  fresh := by decide
  considered := by decide
  recognised := by decide +kernel
  decoded := rfl

/-- A walk through a directory without subdirectories. -/
theorem walk_flat {tree : FileTree} {names : List String} (root : String)
    (files : (tree.children []).filterMap fileName? = names)
    (directories : (tree.children []).filterMap openDirectory? = [])
    (ascending : names.Pairwise fun first second => decide (first ≤ second)) :
    tree.walk root [] = [⟨[], names⟩] :=
  FileTree.walkFrom_listed rfl files directories ascending List.Pairwise.nil

/-- Two sources and one image. -/
theorem badgeProject_survey : ∃ problem?,
    Survey.read badgeProject "." ({} : Config).fallbackExtensions =
      .ok ⟨⟨".", [("Home.swift", .swift)], ["badge_iPhone.png"], [], []⟩,
        ⟨[⟨badgeImage, problem?⟩], []⟩, [("Home.swift", .ok badgeScreen)]⟩ := by
  have walk : badgeProject.files.walk "." [] = [⟨[], ["Home.swift", "badge_iPhone.png"]⟩] :=
    walk_flat "." rfl rfl (by decide)
  have tree : SourceTree.ofVisits "." ({} : Config).fallbackExtensions
      (badgeProject.files.walk "." []) =
      ⟨".", [("Home.swift", .swift)], ["badge_iPhone.png"], [], []⟩ := by
    rw [walk]
    decide +kernel
  have scanned : SourceTree.scan badgeProject "." ({} : Config).fallbackExtensions =
      .ok ⟨".", [("Home.swift", .swift)], ["badge_iPhone.png"], [], []⟩ :=
    SourceTree.scan_eq_ok.mpr ⟨[], rfl, by decide, by decide, tree.symm⟩
  refine ⟨some (.content .unidentified), Survey.read_eq_ok.mpr ⟨scanned, rfl, ?_⟩⟩
  rw [Survey.readTexts, Survey.sortedTexts, List.mergeSort_singleton]
  rfl

theorem kindAddition_survey : ∃ problem?,
    Survey.read kindAddition.applied "." ({} : Config).fallbackExtensions =
      .ok ⟨⟨".", [("Home.swift", .swift), ("kind.swift", .swift)], ["badge_iPhone.png"], [], []⟩,
        ⟨[⟨badgeImage, problem?⟩], []⟩,
        [("Home.swift", .ok badgeScreen), ("kind.swift", .ok kindSource)]⟩ := by
  have walk : kindAddition.files.walk "." [] =
      [⟨[], ["Home.swift", "badge_iPhone.png", "kind.swift"]⟩] :=
    walk_flat "." rfl rfl (by decide)
  have tree : SourceTree.ofVisits "." ({} : Config).fallbackExtensions
      (kindAddition.files.walk "." []) =
      ⟨".", [("Home.swift", .swift), ("kind.swift", .swift)], ["badge_iPhone.png"], [], []⟩ := by
    rw [walk]
    decide +kernel
  have scanned : SourceTree.scan kindAddition.applied "." ({} : Config).fallbackExtensions =
      .ok ⟨".", [("Home.swift", .swift), ("kind.swift", .swift)], ["badge_iPhone.png"], [], []⟩ :=
    SourceTree.scan_eq_ok.mpr ⟨[], rfl, by decide, by decide, tree.symm⟩
  refine ⟨some (.content .unidentified), Survey.read_eq_ok.mpr ⟨scanned, rfl, ?_⟩⟩
  rw [Survey.readTexts, Survey.sortedTexts, List.mergeSort_of_pairwise (by decide)]
  rfl

theorem badgeAssets (tree : SourceTree) (problem? : Option ImageProblem)
    (readings : List (String × Except TextFailure SourceFile)) :
    Survey.assets ⟨tree, ⟨[⟨badgeImage, problem?⟩], []⟩, readings⟩ = [badgeImage] :=
  List.mergeSort_singleton _

theorem noRules_compliance (assets : List Asset) :
    ∃ compliance, runCompliance [] assets = .ok compliance := by
  unfold runCompliance runRules Rule.sorted
  rw [List.mergeSort_nil]
  exact ⟨_, rfl⟩

theorem badgeScreen_scan : SourceScan.of badgeScreen =
    ⟨[], [], [⟨⟨"badge_", "deviceKind", ""⟩, "Home.swift", 1⟩],
      DynamicLookup.ofSource badgeScreen⟩ := by
  have literals : Literal.ofSource badgeScreen =
      [⟨"swiftui-image", "badge_\\(deviceKind)", 1⟩] := by decide +kernel
  have bindings : Binding.ofSource badgeScreen = [] := by decide +kernel
  rw [SourceScan.of, literals, bindings]
  rfl

theorem kindSource_scan : SourceScan.of kindSource =
    ⟨[⟨"Phone", "kind.swift", 1, "let-constant"⟩], [⟨"deviceKind", ["Phone"]⟩], [],
      DynamicLookup.ofSource kindSource⟩ := by
  have literals : Literal.ofSource kindSource = [⟨"let-constant", "Phone", 1⟩] := by
    decide +kernel
  have bindings : Binding.ofSource kindSource = [⟨"deviceKind", ["Phone"]⟩] := by decide +kernel
  rw [SourceScan.of, literals, bindings]
  rfl

/-- The screen alone uses the image. -/
theorem badgeImage_used (lookups : List DynamicLookup) :
    badgeImage ∉ (Usage.of [badgeImage]
      ((Extraction.ofScans [SourceScan.of badgeScreen]).usedNames [] {}) [badgeScreen]
      lookups).unused := by
  intro unused
  rw [badgeScreen_scan] at unused
  simp only [Usage.unused_of, List.mem_filter, Bool.and_eq_true, Asset.isUnmatched, Bool.not_eq_true']
    at unused
  have unmatched := List.any_eq_false.mp unused.2.1.2 "badge_iPhone" (by decide +kernel)
  simp only [Extraction.usedNames, usedNames, List.contains_iff_mem, Text.mem_sortedSet]
    at unmatched
  exact unmatched (by decide +kernel)

/-- The screen and the new source do not. -/
theorem badgeImage_unused (lookups : List DynamicLookup) :
    badgeImage ∈ (Usage.of [badgeImage]
      ((Extraction.ofScans [SourceScan.of badgeScreen, SourceScan.of kindSource]).usedNames [] {})
      [badgeScreen, kindSource] lookups).unused := by
  rw [badgeScreen_scan, kindSource_scan]
  simp only [Usage.unused_of, List.mem_filter, Bool.and_eq_true, Asset.isUnmatched, Bool.not_eq_true']
  refine ⟨by simp, ⟨by decide +kernel, ?_⟩, by decide +kernel⟩
  rw [List.any_eq_false]
  simp only [Extraction.usedNames, usedNames, List.contains_iff_mem, Text.mem_sortedSet]
  decide +kernel

/-- A binding can leave an image unused that was used. -/
theorem binding_can_unuse :
    badgeProject.files.IsProper ∧
      ∃ before after, audit badgeProject "." {} [] = .ok before ∧
        audit kindAddition.applied "." {} [] = .ok after ∧
        badgeImage ∈ after.usage.unused ∧ badgeImage ∉ before.usage.unused := by
  obtain ⟨compliance, checked⟩ := noRules_compliance [badgeImage]
  obtain ⟨problem?, surveyed⟩ := badgeProject_survey
  obtain ⟨laterProblem?, resurveyed⟩ := kindAddition_survey
  refine ⟨by decide, _, _,
    audit_eq_ok.mpr ⟨by decide, _, compliance, surveyed, by rw [badgeAssets, checked], rfl⟩,
    audit_eq_ok.mpr ⟨by decide, _, compliance, resurveyed, by rw [badgeAssets, checked], rfl⟩,
    ?_, ?_⟩
  · unfold Survey.usage
    rw [badgeAssets]
    exact badgeImage_unused _
  · unfold Survey.usage
    rw [badgeAssets]
    exact badgeImage_used _

/-- A source that binds a name which no placeholder asks for. -/
def titleSource : SourceFile := ⟨"title.swift", .swift, "let title = \"Phone\""⟩

def titleAddition : TextAddition badgeProject "." ({} : Config).fallbackExtensions where
  base := []
  place := ["title.swift"]
  content := titleSource.text.toUTF8.data.toList
  category := .swift
  text := titleSource.text.toList
  located := rfl
  named := by decide
  fresh := by decide
  considered := by decide
  recognised := by decide +kernel
  decoded := rfl

theorem title_preserved :
    (Extraction.ofScans [SourceScan.of badgeScreen]).IsPreservedBy {} titleSource := by
  rw [badgeScreen_scan]
  intro use detected inner met key vain binding bound named
  obtain rfl := List.mem_singleton.mp detected
  -- no name that the template becomes has a placeholder left
  have sole : inner = ⟨"badge_", "deviceKind", ""⟩ := by
    rcases met with same | ⟨values, name, chain, _, parts⟩
    · exact same
    · have complete : ∀ value ∈ ["iPhone", "iPad", "TV", "Watch", "Mac"], Template.ofName?
          ((⟨"badge_", "deviceKind", ""⟩ : Template).render value) = none := by decide
      cases values with
      | nil => exact (SubstitutionChain.not_nil chain).elim
      | cons value values =>
          obtain ⟨member, ⟨_, rfl⟩ | ⟨next, _, further, _⟩⟩ := SubstitutionChain.cons_iff.mp chain
          · rw [complete value member] at parts
            cases parts
          · rw [complete value member] at further
            cases further
  have unasked : ∀ binding ∈ Binding.ofSource titleSource, ∀ key ∈ lookupKeys "deviceKind",
      binding.identifier ≠ key := by decide +kernel
  rw [sole] at vain
  exact absurd named (unasked binding bound key ((List.takeWhile_prefix _).subset vain))

theorem unused_shrinks_with_title :
    ∃ before after, audit badgeProject "." {} [] = .ok before ∧
      audit titleAddition.applied "." {} [] = .ok after ∧
      ∀ asset ∈ after.usage.unused, asset ∈ before.usage.unused := by
  obtain ⟨compliance, checked⟩ := noRules_compliance [badgeImage]
  obtain ⟨problem?, surveyed⟩ := badgeProject_survey
  have audited := audit_eq_ok.mpr
    ⟨by decide, _, compliance, surveyed, by rw [badgeAssets, checked], rfl⟩
  obtain ⟨after, reaudited, shrinks⟩ :=
    audit_unused_shrinks (by decide) surveyed audited titleAddition title_preserved
  exact ⟨_, after, audited, reaudited, shrinks⟩

end Badge

end AssetAudit
