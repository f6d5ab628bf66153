import AssetAudit.Compliance.Rule
import AssetAudit.Decimal.Tenths

namespace AssetAudit.DesignQuality

/-! Pixel dimensions.  Only images whose dimensions are known are checked. -/

/-- An image smaller than this on both sides is too small. -/
def leastSide : Int := 44

/-- An image with more pixels is too large. -/
def mostPixels : Int := 2000000

/-- Is the image meant for a higher scale that does not divide its sides? -/
def isFractional (scale : Option Int) (width height : Int) : Bool :=
  scale.any fun scale => scale > 1 && (width % scale != 0 || height % scale != 0)

/-- Two sides as a report shows them. -/
def sidesText (width height : Int) : String := Text.decimal width ++ "×" ++ Text.decimal height

/-- The greatest multiple of the scale up to this length. -/
def wholeSide (scale : Int) (side : Int) : Int := side / scale * scale

def fractionalIssue (asset : Asset) (scale : Int) (width height : Int) : Issue :=
  ⟨asset,
    "Ensure dimensions scale to whole numbers (current: " ++ sidesText width height ++
      ", expected: " ++ sidesText (wholeSide scale width) (wholeSide scale height) ++ ")",
    .designQuality .fractionalScale "May cause blurry rendering"⟩

def smallIssue (asset : Asset) : Issue :=
  ⟨asset, "Increase size to at least 44×44 points for touch targets or 22×22 for small icons",
    .designQuality .tooSmall "May appear pixelated on high-resolution displays"⟩

def oversizedIssue (asset : Asset) (megapixels : String) : Issue :=
  ⟨asset, "Consider reducing dimensions or using progressive loading for large images",
    .designQuality .oversized ("High memory usage (" ++ megapixels ++ "MP)")⟩

/-- The issue of an image with too many pixels.  It shows their number in millions. -/
def oversizedIssues (asset : Asset) (pixels : Int) : Except RuleFailure (List Issue) :=
  if pixels > mostPixels then
    match Decimal.quotientText? pixels.toNat 1000000 with
    | some megapixels => .ok [oversizedIssue asset megapixels]
    | none => .error .areaOutOfRange
  else .ok []

def issuesOf (asset : Asset) : Except RuleFailure (List Issue) :=
  match asset.dimensions with
  | none => .ok []
  | some (width, height) => do
      let fractional :=
        if isFractional asset.scale width height then
          [fractionalIssue asset (asset.scale.getD 1) width height]
        else []
      let small := if width < leastSide ∧ height < leastSide then [smallIssue asset] else []
      return fractional ++ small ++ (← oversizedIssues asset (width * height))

def issues (assets : List Asset) : Except RuleFailure (List Issue) := do
  return (← assets.mapM issuesOf).flatten

def documentation : String :=
  "Pixel dimension checks: scaling, minimum size, memory footprint.

Only assets whose dimensions could be read are checked.

    non-integer-scaling      an @2x/@3x image whose width or height does not
                             divide by its scale (renders blurry)
    too-small                both sides under 44 px (critical)
    inefficient-dimensions   more than 2 megapixels (critical)

Example:
    asset-tool design-quality ./MyApp --json"

def rule : Rule :=
  ⟨"design-quality", .designQuality,
    "Check scale divisibility, minimum size and oversized dimensions.", some issues⟩

end AssetAudit.DesignQuality
