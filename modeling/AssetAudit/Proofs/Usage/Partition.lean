import AssetAudit.Usage
import Mathlib.Data.List.Basic

namespace AssetAudit

/-! The verdict on the images is a partition that keeps their order.  An image is unused just if it
is not exempt, the sources refer to none of its names and no text holds its name.  More names and
more texts leave fewer images unused. -/

/-- The sources have no use for the image, and neither has a build tool. -/
structure Asset.IsUnused (asset : Asset) (usedNames : List String)
    (sources : List SourceFile) : Prop where
  notExempt : asset.exemption? = none
  unnamed : ∀ name ∈ asset.usageNames, name ∉ usedNames
  absent : ∀ source ∈ sources, ¬ asset.name.toList <:+: source.text.toList

variable {asset : Asset} {assets : List Asset} {usedNames moreNames : List String}
  {sources moreSources : List SourceFile}

/-- A name counts as it is written and in small letters. -/
theorem Asset.mem_usageNames_of_plain {name : String} (plain : name.toList ∈ asset.plainNames) :
    name ∈ asset.usageNames ∧ String.ofList (Text.lower name.toList) ∈ asset.usageNames := by
  have small : Text.lower name.toList ∈ asset.plainNames.map Text.lower :=
    List.mem_map_of_mem plain
  constructor
  · refine List.mem_map.mpr ⟨name.toList, ?_, String.ofList_toList⟩
    exact List.mem_append_left _ (List.mem_append_left _ plain)
  · refine List.mem_map.mpr ⟨_, ?_, rfl⟩
    exact List.mem_append_left _ (List.mem_append_right _ small)

theorem Asset.isUnmatched_iff :
    asset.isUnmatched usedNames = true ↔
      asset.exemption? = none ∧ ∀ name ∈ asset.usageNames, name ∉ usedNames := by
  simp [Asset.isUnmatched]

theorem occursInSources_eq_false {name : String} :
    occursInSources sources name = false ↔
      ∀ source ∈ sources, ¬ name.toList <:+: source.text.toList := by
  simp only [occursInSources, List.any_eq_false, Text.occursIn_iff]

/-- What the two searches leave over is unused. -/
theorem Asset.isUnused_iff :
    (asset.isUnmatched usedNames && !occursInSources sources asset.name) = true ↔
      asset.IsUnused usedNames sources := by
  rw [Bool.and_eq_true, Bool.not_eq_true', isUnmatched_iff, occursInSources_eq_false]
  constructor
  · intro left
    exact ⟨left.1.1, left.1.2, left.2⟩
  · intro unused
    exact ⟨⟨unused.notExempt, unused.unnamed⟩, unused.absent⟩

instance : Decidable (asset.IsUnused usedNames sources) := decidable_of_iff _ Asset.isUnused_iff

theorem Asset.IsUnused.mono (unused : asset.IsUnused moreNames moreSources)
    (names : usedNames ⊆ moreNames) (texts : sources ⊆ moreSources) :
    asset.IsUnused usedNames sources where
  notExempt := unused.notExempt
  unnamed name form used := unused.unnamed name form (names used)
  absent source member := unused.absent source (texts member)

namespace Usage

variable {dynamicLookups moreLookups : List DynamicLookup}

theorem unused_eq_filter :
    (Usage.of assets usedNames sources dynamicLookups).unused =
      assets.filter fun asset => asset.IsUnused usedNames sources := by
  rw [unused_of]
  refine List.filter_congr fun asset _ => ?_
  rw [Bool.eq_iff_iff, Asset.isUnused_iff, decide_eq_true_iff]

theorem mem_unused :
    asset ∈ (Usage.of assets usedNames sources dynamicLookups).unused ↔
      asset ∈ assets ∧ asset.IsUnused usedNames sources := by
  simp [unused_eq_filter]

theorem mem_exempt {reason : String} :
    (asset, reason) ∈ (Usage.of assets usedNames sources dynamicLookups).exempt ↔
      asset ∈ assets ∧ asset.exemption?.map Exemption.reason = some reason := by
  simp only [Usage.of, List.mem_filterMap, Option.map_eq_some_iff, Prod.mk.injEq]
  constructor
  · intro found
    obtain ⟨_, member, exemption, exempt, rfl, rfl⟩ := found
    exact ⟨member, exemption, exempt, rfl⟩
  · intro found
    obtain ⟨member, exemption, exempt, rfl⟩ := found
    exact ⟨asset, member, exemption, exempt, rfl, rfl⟩

theorem exempt_images :
    (Usage.of assets usedNames sources dynamicLookups).exempt.map Prod.fst =
      assets.filter (·.exemption?.isSome) := by
  induction assets with
  | nil => rfl
  | cons asset rest ih =>
      simp only [Usage.of] at ih ⊢
      rw [List.filterMap_cons, List.filter_cons]
      cases asset.exemption? with
      | none => simpa using ih
      | some exemption => simpa using ih

/-- Each image has one place in the verdict, in the order and as often as it is listed. -/
structure IsPartition (usage : Usage) (assets : List Asset) (usedNames : List String)
    (sources : List SourceFile) : Prop where
  exemptImages : usage.exempt.map Prod.fst = assets.filter (·.exemption?.isSome)
  reasons : ∀ entry ∈ usage.exempt, entry.1.exemption?.map Exemption.reason = some entry.2
  unused : usage.unused = assets.filter fun asset => asset.IsUnused usedNames sources
  disjoint : ∀ asset ∈ usage.unused, asset ∉ usage.exempt.map Prod.fst

theorem isPartition_of :
    (Usage.of assets usedNames sources dynamicLookups).IsPartition assets usedNames sources where
  exemptImages := exempt_images
  reasons := fun _ member => (mem_exempt.mp member).2
  unused := unused_eq_filter
  disjoint := by
    intro asset unused exempt
    rw [exempt_images, List.mem_filter, (mem_unused.mp unused).2.notExempt] at exempt
    cases exempt.2

theorem unused_sublist (names : usedNames ⊆ moreNames) (texts : sources ⊆ moreSources) :
    (Usage.of assets moreNames moreSources moreLookups).unused.Sublist
      (Usage.of assets usedNames sources dynamicLookups).unused := by
  rw [unused_eq_filter, unused_eq_filter]
  refine List.monotone_filter_right assets fun asset unused => ?_
  exact decide_eq_true ((of_decide_eq_true unused).mono names texts)

end Usage

/-- The images are parted exactly, in their order.  More used names and more texts leave a part of
the unused images unused, and no names or texts make an exempt image unused. -/
theorem usage_partitions (assets : List Asset) (usedNames : List String)
    (sources : List SourceFile) (dynamicLookups : List DynamicLookup) :
    (Usage.of assets usedNames sources dynamicLookups).IsPartition assets usedNames sources ∧
      (∀ moreNames moreSources moreLookups, usedNames ⊆ moreNames → sources ⊆ moreSources →
        (Usage.of assets moreNames moreSources moreLookups).unused.Sublist
          (Usage.of assets usedNames sources dynamicLookups).unused) ∧
      ∀ asset, asset.exemption?.isSome = true → ∀ names texts lookups,
        asset ∉ (Usage.of assets names texts lookups).unused := by
  refine ⟨Usage.isPartition_of, fun _ _ _ names texts => Usage.unused_sublist names texts, ?_⟩
  intro asset exempt names texts lookups unused
  rw [(Usage.mem_unused.mp unused).2.notExempt] at exempt
  cases exempt

section Mixed

def namedImage (name : String) : Asset :=
  ⟨name, name ++ ".png", 1, .png, "png", none, none, none, none, none⟩

/-- An exempt image, one that is referred to and one that a text holds, between two others. -/
def mixedImages : List Asset :=
  [namedImage "loose", namedImage "snapshot", namedImage "used", namedImage "shown",
    namedImage "loose"]

def shownSource : SourceFile := ⟨"Home.swift", .swift, "let title = \"shown\""⟩

theorem mixedImages_parted :
    (Usage.of mixedImages ["used"] [shownSource] []).unused =
        [namedImage "loose", namedImage "loose"] ∧
      (Usage.of mixedImages ["used"] [shownSource] []).exempt.map Prod.fst =
        [namedImage "snapshot"] ∧
      (Usage.of mixedImages ["loose", "used"] [shownSource] []).unused.Sublist
        [namedImage "loose", namedImage "loose"] := by
  obtain ⟨partition, shrinks, -⟩ := usage_partitions mixedImages ["used"] [shownSource] []
  have unused : (Usage.of mixedImages ["used"] [shownSource] []).unused =
      [namedImage "loose", namedImage "loose"] := by
    rw [partition.unused]
    decide +kernel
  refine ⟨unused, ?_, ?_⟩
  · rw [partition.exemptImages]
    decide +kernel
  · rw [← unused]
    exact shrinks ["loose", "used"] [shownSource] [] (by simp) (List.Subset.refl _)

end Mixed

end AssetAudit
