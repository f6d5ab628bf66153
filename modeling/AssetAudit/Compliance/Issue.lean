import AssetAudit.Asset
import AssetAudit.Text.Casing

namespace AssetAudit

/-! Issues that compliance rules raise.  What an issue found belongs to one of four families. -/

inductive Severity where
  | critical
  | warning
deriving DecidableEq

def Severity.name : Severity → String
  | critical => "critical"
  | warning => "warning"

inductive Family where
  | interlacing
  | colorProfile
  | catalog
  | designQuality
deriving DecidableEq

namespace Family

/-- The families in the order of reports. -/
def all : List Family := [interlacing, colorProfile, catalog, designQuality]

def name : Family → String
  | interlacing => "interlacing"
  | colorProfile => "color-profile"
  | catalog => "catalog"
  | designQuality => "design-quality"

/-- How messages call the issues of a family. -/
def issueType : Family → String
  | interlacing => "InterlacingIssue"
  | colorProfile => "ColorProfileIssue"
  | catalog => "CatalogOrganizationIssue"
  | designQuality => "DesignQualityIssue"

end Family

inductive ProfileFault where
  | missing
  | incompatible
  | outdated
deriving DecidableEq

def ProfileFault.name : ProfileFault → String
  | missing => "missing"
  | incompatible => "incompatible"
  | outdated => "outdated"

inductive CatalogFault where
  | outsideCatalog
  | missingScale
  | orphanedScale
deriving DecidableEq

def CatalogFault.name : CatalogFault → String
  | outsideCatalog => "should-be-in-catalog"
  | missingScale => "missing-scale-variant"
  | orphanedScale => "orphaned-scale"

inductive DesignFault where
  | fractionalScale
  | tooSmall
  | oversized
deriving DecidableEq

def DesignFault.name : DesignFault → String
  | fractionalScale => "non-integer-scaling"
  | tooSmall => "too-small"
  | oversized => "inefficient-dimensions"

/-- What an issue found. -/
inductive Finding where
  | interlacing (impact : String)
  | colorProfile (fault : ProfileFault) (current recommended : Option String)
  | catalog (fault : CatalogFault) (scales : List String)
  | designQuality (fault : DesignFault) (impact : String)
deriving DecidableEq

namespace Finding

def family : Finding → Family
  | interlacing _ => .interlacing
  | colorProfile .. => .colorProfile
  | catalog .. => .catalog
  | designQuality .. => .designQuality

def severity : Finding → Severity
  | interlacing impact => if impact = "critical" then .critical else .warning
  | colorProfile .missing _ _ => .critical
  | colorProfile .. => .warning
  | catalog .missingScale _ => .critical
  | catalog .. => .warning
  | designQuality .fractionalScale _ => .warning
  | designQuality .. => .critical

/-- A profile that is not known is shown as `None`. -/
def profileText (profile : Option String) : String := profile.getD "None"

def description : Finding → String
  | interlacing impact => String.ofList (Text.capitalize impact.toList) ++ " impact"
  | colorProfile .missing _ _ => "Missing color profile"
  | colorProfile .incompatible current recommended =>
      "Incompatible profile (" ++ profileText current ++ " → " ++ profileText recommended ++ ")"
  | colorProfile .outdated current _ => "Outdated profile (" ++ profileText current ++ ")"
  | catalog .outsideCatalog _ => "Should be in Asset Catalog"
  | catalog .missingScale scales => "Missing scale variants: " ++ String.intercalate ", " scales
  | catalog .orphanedScale scales => "Orphaned scale variant: " ++ String.intercalate ", " scales
  | designQuality _ impact => impact

end Finding

structure Issue where
  asset : Asset
  recommendation : String
  finding : Finding
deriving DecidableEq

namespace Issue

def family (issue : Issue) : Family := issue.finding.family

def severity (issue : Issue) : Severity := issue.finding.severity

def isCritical (issue : Issue) : Bool := issue.severity = .critical

def description (issue : Issue) : String := issue.finding.description

def toValue (issue : Issue) : Json.Value := .object [
  ("image", issue.asset.toValue),
  ("family", .string issue.family.name),
  ("severity", .string issue.severity.name),
  ("description", .string issue.description),
  ("recommendation", .string issue.recommendation)]

end Issue

end AssetAudit
