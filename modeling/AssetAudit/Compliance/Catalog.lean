import AssetAudit.Compliance.Rule
import AssetAudit.Text.Search
import AssetAudit.Text.Sorted

namespace AssetAudit.Catalog

/-! The organisation of asset catalogs: images that belong in one, and image sets that lack a
scale. -/

def requiredScales : List Int := [1, 2, 3]

/-- Words in the names of images of a user interface. -/
def interfaceWords : List String := ["icon", "button", "background", "ui"]

/-- Does the image look like a part of a user interface? -/
def belongsInCatalog (asset : Asset) : Bool :=
  let name := Text.lower asset.name.toList
  interfaceWords.any (fun word => Text.occursIn word.toList name) ||
    Text.occursIn "assets".toList (Text.lower asset.path.toList) || asset.name.toList.contains '@'

def misplacedIssue (asset : Asset) : Issue :=
  ⟨asset, "Move to Asset Catalog for better iOS optimization and management",
    .catalog .outsideCatalog []⟩

/-- The label of a scale, such as `@2x`. -/
def scaleLabel (scale : Int) : String := "@" ++ Text.decimal scale ++ "x"

/-- The labels of the scales that none of the variants has. -/
def missingScales (variants : List Asset) : List String :=
  (requiredScales.filter fun scale => !variants.any (·.scale = some scale)).map scaleLabel

/-- The issue of a set that lacks a scale; it names the first variant. -/
def missingIssues (first : Asset) (variants : List Asset) : List Issue :=
  let missing := missingScales variants
  if missing.isEmpty then []
  else
    [⟨first,
      "Add missing scale variants: " ++ String.intercalate ", " missing ++
        " for optimal iOS display",
      .catalog .missingScale missing⟩]

/-- The issue of a set whose only variant is one for a higher scale. -/
def orphanedIssues (variants : List Asset) : List Issue :=
  match variants with
  | [only] =>
      match only.scale with
      | some scale =>
          if scale > 1 then
            [⟨only, "Add @1x base variant for complete scale set",
              .catalog .orphanedScale [scaleLabel scale]⟩]
          else []
      | none => []
  | _ => []

/-- The issues of an image set, given all its variants. -/
def groupIssues : List Asset → List Issue
  | [] => []
  | first :: rest => missingIssues first (first :: rest) ++ orphanedIssues (first :: rest)

/-- The variants of a set, in their order. -/
def variantsOf (assets : List Asset) (group : String) : List Asset :=
  assets.filter fun asset => asset.catalogGroup = some group

/-- The sets that the images belong to, in ascending order. -/
def groups (assets : List Asset) : List String :=
  Text.sortedSet (assets.filterMap (·.catalogGroup))

def issues (assets : List Asset) : List Issue :=
  (assets.filter fun asset => !asset.isCatalogVariant && belongsInCatalog asset).map
      misplacedIssue ++
    (groups assets).flatMap fun group => groupIssues (variantsOf assets group)

def documentation : String :=
  "Asset Catalog organisation: misplaced files and incomplete scale sets.

Standalone images that look like UI elements (name contains icon, button,
background or ui; path contains \"assets\"; name carries an @Nx suffix) should
live in an Asset Catalog.

Per catalog group (.imageset):
    missing-scale-variant   one of @1x/@2x/@3x is absent (critical)
    orphaned-scale          the group is a single @2x or @3x variant

A lone @2x group raises both.

Example:
    asset-tool catalog ./MyApp"

def rule : Rule :=
  ⟨"catalog", .catalog,
    "Find images that belong in an Asset Catalog and incomplete scale sets.",
    some fun assets => .ok (issues assets)⟩

end AssetAudit.Catalog
