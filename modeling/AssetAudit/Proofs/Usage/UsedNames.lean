import AssetAudit.Audit
import AssetAudit.Proofs.Binding.Fold
import AssetAudit.Proofs.Resolution.Growth

namespace AssetAudit

/-! The used names grow with what the sources say, and the unused images shrink. -/

theorem mem_usedNames {references : List Reference} {templates : List Template}
    {table : BindingTable} {bundleImages : List String} {config : Config} {name : String} :
    name ∈ usedNames references templates table bundleImages config ↔
      (∃ reference ∈ references, name ∈ reference.names config.hdSuffixes) ∨
        (∃ template ∈ templates, name ∈ template.candidates table config) ∨
        name ∈ bundleImages := by
  simp [usedNames]

theorem mem_occursInSources {sources : List SourceFile} {name : String} :
    occursInSources sources name = true ↔
      ∃ source ∈ sources, Text.occursIn name.toList source.text.toList = true :=
  List.any_eq_true

/-- A framework that knows more resolution suffixes finds more. -/
theorem Reference.names_subset {suffixes more : List String} (reference : Reference)
    (kept : suffixes ⊆ more) : reference.names suffixes ⊆ reference.names more := by
  intro name member
  unfold Reference.names at member ⊢
  refine (List.mem_append.mp member).elim (List.mem_append_left _) fun variant => ?_
  refine List.mem_append_right _ ?_
  split
  · rename_i inCode
    rw [if_pos inCode] at variant
    obtain ⟨suffix, among, marked⟩ := List.mem_flatMap.mp variant
    exact List.mem_flatMap.mpr ⟨suffix, List.cons_subset_cons "" kept among, marked⟩
  · rename_i text
    rwa [if_neg text] at variant

namespace Extraction

variable {scans wider : List SourceScan}

theorem lookup_grows (more : ∀ scan ∈ scans, scan ∈ wider) (key value : String)
    (member : value ∈ (ofScans scans).table.lookup key) :
    value ∈ (ofScans wider).table.lookup key := by
  simp only [ofScans, BindingTable.mem_lookup_ofList, List.mem_flatMap] at member ⊢
  obtain ⟨binding, ⟨scan, among, bound⟩, found⟩ := member
  exact ⟨binding, ⟨scan, more scan among, bound⟩, found⟩

/-- More scans and a wider configuration give more used names, as long as no placeholder loses a
value to a name that it asked for in vain. -/
theorem usedNames_widen (more : ∀ scan ∈ scans, scan ∈ wider) {config deeper : Config}
    (widened : config.IsWidenedBy deeper)
    (covers : ∀ use ∈ (ofScans scans).templates, ∀ inner,
      use.template.Meets (ofScans scans).table config inner →
        ∀ key ∈ (ofScans scans).table.vainKeys inner.placeholder,
          ∀ value ∈ inner.values (ofScans scans).table config,
            (ofScans wider).table.lookup key = [] ∨ value ∈ (ofScans wider).table.lookup key)
    {bundleImages widerBundleImages : List String}
    (moreBundleImages : ∀ name ∈ bundleImages, name ∈ widerBundleImages) {name : String}
    (used : name ∈ (ofScans scans).usedNames bundleImages config) :
    name ∈ (ofScans wider).usedNames widerBundleImages deeper := by
  rw [Extraction.usedNames, mem_usedNames] at used ⊢
  rcases used with ⟨reference, found, form⟩ | ⟨template, found, form⟩ | bundled
  · obtain ⟨scan, among, here⟩ := List.mem_flatMap.mp found
    exact Or.inl ⟨reference, List.mem_flatMap.mpr ⟨scan, more scan among, here⟩,
      reference.names_subset widened.hdSuffixes form⟩
  · obtain ⟨use, detected, rfl⟩ := List.mem_map.mp found
    obtain ⟨scan, among, here⟩ := List.mem_flatMap.mp detected
    refine Or.inr (Or.inl ⟨use.template, List.mem_map_of_mem
      (List.mem_flatMap.mpr ⟨scan, more scan among, here⟩), ?_⟩)
    refine Template.candidates_subset widened (fun inner met value bound => ?_) form
    exact Template.mem_values_of_grows widened (fun key => lookup_grows more key value)
      (fun key vain => covers use detected inner met key vain value bound) bound
  · exact Or.inr (Or.inr (moreBundleImages name bundled))

theorem usedNames_grow (more : ∀ scan ∈ scans, scan ∈ wider) {config : Config}
    (covers : ∀ use ∈ (ofScans scans).templates, ∀ inner,
      use.template.Meets (ofScans scans).table config inner →
        ∀ key ∈ (ofScans scans).table.vainKeys inner.placeholder,
          ∀ value ∈ inner.values (ofScans scans).table config,
            (ofScans wider).table.lookup key = [] ∨ value ∈ (ofScans wider).table.lookup key)
    {bundleImages widerBundleImages : List String}
    (moreBundleImages : ∀ name ∈ bundleImages, name ∈ widerBundleImages) {name : String}
    (used : name ∈ (ofScans scans).usedNames bundleImages config) :
    name ∈ (ofScans wider).usedNames widerBundleImages config :=
  usedNames_widen more (.refl config) covers moreBundleImages used

end Extraction

/-- More used names and more sources leave fewer images unused. -/
theorem unused_shrinks {assets : List Asset} {names widerNames : List String}
    {sources widerSources : List SourceFile} {lookups widerLookups : List DynamicLookup}
    (moreNames : ∀ name ∈ names, name ∈ widerNames)
    (moreSources : ∀ source ∈ sources, source ∈ widerSources) {asset : Asset}
    (unused : asset ∈ (Usage.of assets widerNames widerSources widerLookups).unused) :
    asset ∈ (Usage.of assets names sources lookups).unused := by
  simp only [Usage.unused_of, List.mem_filter, Bool.and_eq_true, Bool.not_eq_true', Asset.isUnmatched]
    at unused ⊢
  obtain ⟨listed, ⟨exempt, unmatched⟩, absent⟩ := unused
  refine ⟨listed, ⟨exempt, ?_⟩, ?_⟩
  · rw [List.any_eq_false] at unmatched ⊢
    intro name member matched
    have known := moreNames name (List.contains_iff_mem.mp matched)
    exact unmatched name member (List.contains_iff_mem.mpr known)
  · cases occurs : occursInSources sources asset.name with
    | false => rfl
    | true =>
        obtain ⟨source, member, here⟩ := mem_occursInSources.mp occurs
        rw [mem_occursInSources.mpr ⟨source, moreSources source member, here⟩] at absent
        cases absent

end AssetAudit
