import AssetAudit.Proofs.Text.CanonicalSet
import AssetAudit.Proofs.Usage.UsedNames

namespace AssetAudit

/-! The verdict on the images depends on the set of what the sources say, not on the order in which
the sources come or on how often one is repeated. -/

namespace Extraction

variable {scans others : List SourceScan}

theorem usedNames_congr (sameScans : ∀ scan, scan ∈ scans ↔ scan ∈ others)
    {bundleImages otherBundleImages : List String}
    (sameBundleImages : ∀ name, name ∈ bundleImages ↔ name ∈ otherBundleImages)
    (config : Config) :
    (ofScans scans).usedNames bundleImages config =
      (ofScans others).usedNames otherBundleImages config := by
  have included : ∀ {scans others : List SourceScan} {bundleImages otherBundleImages : List String},
      (∀ scan, scan ∈ scans ↔ scan ∈ others) →
      (∀ name, name ∈ bundleImages ↔ name ∈ otherBundleImages) →
      ∀ name ∈ (ofScans scans).usedNames bundleImages config,
        name ∈ (ofScans others).usedNames otherBundleImages config := by
    intro scans others bundleImages otherBundleImages sameScans sameBundleImages name used
    refine usedNames_grow (fun scan => (sameScans scan).mp) ?_
      (fun name => (sameBundleImages name).mp) used
    -- a name that is asked for in vain has no values in the other order either
    intro use _ inner _ key vain value _
    refine Or.inl (List.eq_nil_iff_forall_not_mem.mpr fun other member => ?_)
    have back := lookup_grows (fun scan => (sameScans scan).mpr) key other member
    rw [BindingTable.lookup_of_mem_vainKeys vain] at back
    cases back
  apply Text.sortedSet_eq_of_mem_iff
  intro name
  refine Text.mem_sortedSet.symm.trans (Iff.trans ?_ Text.mem_sortedSet)
  exact ⟨included sameScans sameBundleImages name,
    included (fun scan => (sameScans scan).symm) (fun name => (sameBundleImages name).symm) name⟩

end Extraction

/-- Scans, sources and bundled images may come in any order and any number of times: the used names
and the unused and exempt images stay the same. -/
theorem usage_independent_of_order {scans otherScans : List SourceScan}
    {sources otherSources : List SourceFile} {bundleImages otherBundleImages : List String}
    (sameScans : ∀ scan, scan ∈ scans ↔ scan ∈ otherScans)
    (sameSources : ∀ source, source ∈ sources ↔ source ∈ otherSources)
    (sameBundleImages : ∀ name, name ∈ bundleImages ↔ name ∈ otherBundleImages)
    (assets : List Asset) (config : Config) :
    let usage := Usage.of assets ((Extraction.ofScans scans).usedNames bundleImages config)
      sources (Extraction.ofScans scans).dynamicLookups
    let otherUsage := Usage.of assets
      ((Extraction.ofScans otherScans).usedNames otherBundleImages config)
      otherSources (Extraction.ofScans otherScans).dynamicLookups
    usage.usedNames = otherUsage.usedNames ∧ usage.unused = otherUsage.unused ∧
      usage.exempt = otherUsage.exempt := by
  have sameNames := Extraction.usedNames_congr sameScans sameBundleImages config
  have sameOccurrences : ∀ name,
      occursInSources sources name = occursInSources otherSources name := by
    intro name
    rw [Bool.eq_iff_iff, mem_occursInSources, mem_occursInSources]
    simp only [sameSources]
  refine ⟨sameNames, ?_, rfl⟩
  simp only [Usage.of, sameNames, sameOccurrences]

/-- Two values of one name, bound in two files of which one is read twice. -/
theorem usage_of_repeated_scan :
    let day : SourceScan := ⟨[], [⟨"mode", ["Day"]⟩], [], []⟩
    let night : SourceScan :=
      ⟨[], [⟨"mode", ["Night"]⟩], [⟨⟨"sky_", "mode", ""⟩, "Sky.swift", 1⟩], []⟩
    let asset : Asset :=
      ⟨"sky_Night", "sky_Night.png", 1, .png, "png", some 1, none, none, none, none⟩
    (∀ scan, scan ∈ [day, night] ↔ scan ∈ [night, day, night]) ∧
      (Usage.of [asset] ((Extraction.ofScans [day, night]).usedNames [] {}) []
          (Extraction.ofScans [day, night]).dynamicLookups).unused =
        (Usage.of [asset] ((Extraction.ofScans [night, day, night]).usedNames [] {}) []
          (Extraction.ofScans [night, day, night]).dynamicLookups).unused := by
  intro day night asset
  have sameScans : ∀ scan, scan ∈ [day, night] ↔ scan ∈ [night, day, night] := by
    intro scan
    simp only [List.mem_cons, List.not_mem_nil, or_false]
    constructor
    · intro found
      rcases found with rfl | rfl
      · exact Or.inr (Or.inl rfl)
      · exact Or.inl rfl
    · intro found
      rcases found with rfl | rfl | rfl
      · exact Or.inr rfl
      · exact Or.inl rfl
      · exact Or.inr rfl
  exact ⟨sameScans, (usage_independent_of_order sameScans (fun _ => Iff.rfl) (fun _ => Iff.rfl)
    [asset] {}).2.1⟩

end AssetAudit
