import AssetAudit.Compliance.Rule
import AssetAudit.Text.Search

namespace AssetAudit.ColorProfile

/-! Colour profiles.  A profile is known by the names that occur in its description. -/

def recommendedProfiles : List String := ["RGB", "sRGB", "Display P3", "SRGB"]

def outdatedProfiles : List String := ["Adobe RGB", "ProPhoto RGB", "Generic RGB"]

def mentions (names : List String) (profile : String) : Bool :=
  names.any fun name => Text.occursIn name.toList profile.toList

def isRecommended (profile : String) : Bool := mentions recommendedProfiles profile

def isOutdated (profile : String) : Bool := mentions outdatedProfiles profile

def missingIssue (asset : Asset) : Issue :=
  ⟨asset, "Add sRGB color profile for consistent colors across devices",
    .colorProfile .missing none none⟩

def incompatibleIssue (asset : Asset) (profile : String) : Issue :=
  ⟨asset, "Use sRGB color profile for better iOS compatibility",
    .colorProfile .incompatible (some profile) (some "sRGB")⟩

def outdatedIssue (asset : Asset) (profile : String) : Issue :=
  ⟨asset, "Update to modern color profile (sRGB or Display P3)",
    .colorProfile .outdated (some profile) none⟩

def issuesOf (asset : Asset) : List Issue :=
  match asset.colorProfile with
  | none => [missingIssue asset]
  | some profile =>
      (if isRecommended profile then [] else [incompatibleIssue asset profile]) ++
        if isOutdated profile then [outdatedIssue asset profile] else []

def issues (assets : List Asset) : List Issue := assets.flatMap issuesOf

def documentation : String :=
  "Check that every image carries a modern RGB colour profile.

Three independent checks per asset, so one image can raise two issues:

    missing        no profile or colour model could be read (critical)
    incompatible   the profile names none of RGB, sRGB, Display P3
    outdated       Adobe RGB, ProPhoto RGB or Generic RGB

Vector assets (PDF, SVG) have no readable profile and are reported as
missing too.

Example:
    asset-tool color-profile ./MyApp --json"

def rule : Rule :=
  ⟨"color-profile", .colorProfile, "Report missing, incompatible, or outdated colour profiles.",
    some fun assets => .ok (issues assets)⟩

end AssetAudit.ColorProfile
