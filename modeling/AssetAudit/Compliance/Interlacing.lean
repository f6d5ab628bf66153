import AssetAudit.Compliance.Rule

namespace AssetAudit.Interlacing

/-! Interlaced images.  The more pixels an image has, the graver the issue. -/

def impact (asset : Asset) : String :=
  match asset.pixelArea with
  | none => "unknown"
  | some area =>
      if area > 1000000 then "critical" else if area > 100000 then "high" else "medium"

def recommendation : String :=
  "Convert to de-interlaced PNG for better iOS performance and memory usage"

/-- Only a header that positively says so makes an image interlaced. -/
def isFlagged (asset : Asset) : Bool :=
  asset.fileFormat = "png" && asset.isInterlaced = some true

def issues (assets : List Asset) : List Issue :=
  (assets.filter isFlagged).map fun asset =>
    ⟨asset, recommendation, .interlacing (impact asset)⟩

def documentation : String :=
  "Flag interlaced PNGs. Impact grows with pixel area.

iOS decodes interlaced (Adam7) PNGs on a slower path and keeps more of the
image in memory while doing so. Every PNG container is checked, standalone
files and catalog variants alike. Only a header that positively reports
interlacing is flagged; an unreadable header is not.

Impact labels:
    critical   more than 1,000,000 pixels (counts as a critical issue)
    high       more than 100,000 pixels
    medium     anything smaller
    unknown    dimensions could not be read

Example:
    asset-tool interlacing ./MyApp"

def rule : Rule :=
  ⟨"interlacing", .interlacing, "Flag interlaced PNG files, weighted by pixel area.",
    some fun assets => .ok (issues assets)⟩

end AssetAudit.Interlacing
