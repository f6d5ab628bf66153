import AssetAudit.Config
import Mathlib.Data.List.Infix

namespace AssetAudit

/-! A configuration is widened by more entries in its tables, by guesses behind those it has, and by
a deeper search. -/

namespace Config

/-- The other configuration has all that this one has.  Its inference rules come behind the old
ones, which still answer first. -/
structure IsWidenedBy (config wider : Config) : Prop where
  inferenceRules : config.inferenceRules <+: wider.inferenceRules
  roleSuffixes : config.roleSuffixes ⊆ wider.roleSuffixes
  assetDirectories : config.assetDirectories ⊆ wider.assetDirectories
  hdSuffixes : config.hdSuffixes ⊆ wider.hdSuffixes
  fallbackExtensions : config.fallbackExtensions ⊆ wider.fallbackExtensions
  maxExpansionDepth : config.maxExpansionDepth ≤ wider.maxExpansionDepth

theorem IsWidenedBy.refl (config : Config) : config.IsWidenedBy config where
  inferenceRules := List.prefix_rfl
  roleSuffixes := List.Subset.refl _
  assetDirectories := List.Subset.refl _
  hdSuffixes := List.Subset.refl _
  fallbackExtensions := List.Subset.refl _
  maxExpansionDepth := Nat.le_refl _

/-- A rule that answers still does when others come behind it. -/
theorem IsWidenedBy.inferValues {config wider : Config} (widened : config.IsWidenedBy wider)
    (texts : List String) : config.inferValues texts ⊆ wider.inferValues texts := by
  obtain ⟨added, same⟩ := widened.inferenceRules
  intro value member
  unfold Config.inferValues at member ⊢
  rw [← same, List.find?_append]
  cases found : config.inferenceRules.find? fun rule => texts.any rule.concerns with
  | none =>
      rw [found] at member
      cases member
  | some rule => rwa [found] at member

end Config

end AssetAudit
