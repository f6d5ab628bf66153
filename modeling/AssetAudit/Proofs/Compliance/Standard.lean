import AssetAudit.Compliance.Registry
import AssetAudit.Image.Metadata
import AssetAudit.Proofs.Decimal.Range
import AssetAudit.Proofs.Outcome

namespace AssetAudit

/-! The built-in rules raise issues of their own families only, and fail for no image that is small
enough to be read. -/

/-- The dimensions of an image, if they are known, are within the limit of the image reader. -/
def Asset.IsReadable (asset : Asset) : Prop :=
  ∀ width height, asset.dimensions = some (width, height) →
    width * height ≤ Image.Failure.mostPixels

theorem eq_of_mem_if {condition : Prop} [Decidable condition] {raised issue : Issue}
    (member : raised ∈ if condition then [issue] else []) : raised = issue := by
  split at member
  · exact List.mem_singleton.mp member
  · cases member

theorem interlacing_family {assets : List Asset} :
    ∀ issue ∈ Interlacing.issues assets, issue.family = .interlacing := by
  intro issue member
  obtain ⟨asset, -, rfl⟩ := List.mem_map.mp member
  rfl

theorem colorProfile_family {assets : List Asset} :
    ∀ issue ∈ ColorProfile.issues assets, issue.family = .colorProfile := by
  intro issue member
  obtain ⟨asset, -, raised⟩ := List.mem_flatMap.mp member
  unfold ColorProfile.issuesOf at raised
  split at raised
  · rw [List.mem_singleton.mp raised]
    rfl
  · rcases List.mem_append.mp raised with incompatible | outdated
    · split at incompatible
      · cases incompatible
      · rw [List.mem_singleton.mp incompatible]
        rfl
    · rw [eq_of_mem_if outdated]
      rfl

theorem missingIssues_family {first : Asset} {variants : List Asset} :
    ∀ issue ∈ Catalog.missingIssues first variants, issue.family = .catalog := by
  intro issue member
  unfold Catalog.missingIssues at member
  simp only at member
  split at member
  · cases member
  · rw [List.mem_singleton.mp member]
    rfl

theorem orphanedIssues_family {variants : List Asset} :
    ∀ issue ∈ Catalog.orphanedIssues variants, issue.family = .catalog := by
  intro issue member
  unfold Catalog.orphanedIssues at member
  split at member
  · split at member
    · rw [eq_of_mem_if member]
      rfl
    · cases member
  · cases member

theorem catalog_family {assets : List Asset} :
    ∀ issue ∈ Catalog.issues assets, issue.family = .catalog := by
  intro issue member
  rcases List.mem_append.mp member with misplaced | grouped
  · obtain ⟨asset, -, rfl⟩ := List.mem_map.mp misplaced
    rfl
  · obtain ⟨group, -, raised⟩ := List.mem_flatMap.mp grouped
    unfold Catalog.groupIssues at raised
    split at raised
    · cases raised
    · rcases List.mem_append.mp raised with missing | orphaned
      · exact missingIssues_family issue missing
      · exact orphanedIssues_family issue orphaned

section DesignQuality

variable {asset : Asset} {found : List Issue}

theorem oversizedIssues_succeeds {pixels : Int} (few : pixels ≤ Image.Failure.mostPixels) :
    ∃ found, DesignQuality.oversizedIssues asset pixels = .ok found := by
  unfold DesignQuality.oversizedIssues
  split
  · have bounded : pixels.toNat < 1000000 * Decimal.twoPow 10 := by
      have limit : Image.Failure.mostPixels = 178956970 := rfl
      have unit : Decimal.twoPow 10 = 1024 := rfl
      omega
    obtain ⟨text, shown⟩ := Decimal.quotientText?_isSome (by decide) bounded
    simp only [shown]
    exact ⟨_, rfl⟩
  · exact ⟨[], rfl⟩

theorem oversizedIssues_family {pixels : Int}
    (checked : DesignQuality.oversizedIssues asset pixels = .ok found) :
    ∀ issue ∈ found, issue.family = .designQuality := by
  unfold DesignQuality.oversizedIssues at checked
  split at checked
  · split at checked
    · obtain rfl := Except.ok.inj checked
      intro issue member
      rw [List.mem_singleton.mp member]
      rfl
    · cases checked
  · obtain rfl := Except.ok.inj checked
    exact fun issue member => absurd member List.not_mem_nil

theorem designIssues_family (checked : DesignQuality.issuesOf asset = .ok found) :
    ∀ issue ∈ found, issue.family = .designQuality := by
  unfold DesignQuality.issuesOf at checked
  split at checked
  · obtain rfl := Except.ok.inj checked
    exact fun issue member => absurd member List.not_mem_nil
  · obtain ⟨oversized, checkedOversized, checked⟩ := bind_eq_ok.mp checked
    obtain rfl := Except.ok.inj checked
    intro issue member
    rcases List.mem_append.mp member with sides | large
    · rcases List.mem_append.mp sides with fractional | small
      · rw [eq_of_mem_if fractional]
        rfl
      · rw [eq_of_mem_if small]
        rfl
    · exact oversizedIssues_family checkedOversized issue large

theorem designIssues_succeeds (readable : asset.IsReadable) :
    ∃ found, DesignQuality.issuesOf asset = .ok found := by
  unfold DesignQuality.issuesOf
  split
  · exact ⟨[], rfl⟩
  · rename_i width height known
    exact bind_succeeds (oversizedIssues_succeeds (readable width height known))
      fun oversized => ⟨_, rfl⟩

end DesignQuality

section Rules

variable {assets : List Asset}

theorem designQuality_family {found : List Issue}
    (checked : DesignQuality.issues assets = .ok found) :
    ∀ issue ∈ found, issue.family = .designQuality := by
  obtain ⟨lists, each, checked⟩ := bind_eq_ok.mp checked
  obtain rfl := Except.ok.inj checked
  intro issue member
  obtain ⟨list, among, raised⟩ := List.mem_flatten.mp member
  obtain ⟨asset, -, here⟩ := (mem_of_mapM each).mp among
  exact designIssues_family here issue raised

theorem Rule.issues_eq_ok {rule : Rule} {check : List Asset → Except RuleFailure (List Issue)}
    {found : List Issue} (checks : rule.check = some check) (checked : check assets = .ok found)
    (own : ∀ issue ∈ found, issue.family = rule.family) : rule.issues assets = .ok found := by
  have noStray : (found.find? fun issue => issue.family ≠ rule.family) = none :=
    List.find?_eq_none.mpr fun issue member => by simp [own issue member]
  unfold Rule.issues
  rw [checks]
  simp only [checked]
  exact bind_eq_ok.mpr ⟨found, rfl, by rw [noStray]; rfl⟩

/-- A built-in rule raises issues of its family. -/
theorem builtIn_succeeds (readable : ∀ asset ∈ assets, asset.IsReadable) (family : Family) :
    ∃ found, (Rule.builtIn family).issues assets = .ok found := by
  cases family with
  | interlacing => exact ⟨_, Rule.issues_eq_ok rfl rfl interlacing_family⟩
  | colorProfile => exact ⟨_, Rule.issues_eq_ok rfl rfl colorProfile_family⟩
  | catalog => exact ⟨_, Rule.issues_eq_ok rfl rfl catalog_family⟩
  | designQuality =>
      obtain ⟨found, checked⟩ : ∃ found, DesignQuality.issues assets = .ok found :=
        bind_succeeds (mapM_succeeds fun asset member =>
          designIssues_succeeds (readable asset member)) fun lists => ⟨_, rfl⟩
      exact ⟨found, Rule.issues_eq_ok rfl checked (designQuality_family checked)⟩

/-- The built-in rules together give a report on all images that can be read. -/
theorem runCompliance_standard (readable : ∀ asset ∈ assets, asset.IsReadable) :
    ∃ compliance, runCompliance Rule.standard assets = .ok compliance := by
  refine bind_succeeds (mapM_succeeds fun rule member => ?_) fun results => ⟨_, rfl⟩
  obtain ⟨family, -, rfl⟩ := List.mem_map.mp (List.mem_mergeSort.mp member)
  exact bind_succeeds (builtIn_succeeds readable family) fun found => ⟨_, rfl⟩

end Rules

end AssetAudit
