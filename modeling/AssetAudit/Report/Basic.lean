import AssetAudit.Compliance.Score
import AssetAudit.Decimal.Tenths
import AssetAudit.Project.SourceTree
import AssetAudit.Usage

namespace AssetAudit

/-! The result of an audit, and what a reader should do first about it. -/

structure AuditReport where
  /-- The directory that was audited, as it was given. -/
  root : String
  assets : List Asset
  usage : Usage
  compliance : ComplianceReport
  skippedFiles : List SkippedFile

def totalByteSize (assets : List Asset) : Int :=
  assets.foldr (fun asset total => asset.byteSize + total) 0

def AuditReport.totalSize (report : AuditReport) : Int := totalByteSize report.assets

def AuditReport.unusedSize (report : AuditReport) : Int := totalByteSize report.usage.unused

/-- A size is too large to be shown. -/
inductive SizeFailure where
  | outOfRange
deriving DecidableEq

def SizeFailure.message : SizeFailure → String
  | outOfRange => quotientOutOfRange

/-- A quotient of a size as a text with a unit. -/
def sizeQuotient (size divisor : Nat) (unit : String) : Except SizeFailure String :=
  match Decimal.quotientText? size divisor with
  | some quotient => .ok (quotient ++ unit)
  | none => .error .outOfRange

/-- A size in bytes, or from 1024 of them on in a larger unit with one decimal place. -/
def sizeText (size : Int) : Except SizeFailure String :=
  if size < 1024 then .ok (Text.decimal size ++ " B")
  else if size < 1024 * 1024 then sizeQuotient size.toNat 1024 " KB"
  else sizeQuotient size.toNat (1024 * 1024) " MB"

/-- The parts that a report may consist of. -/
inductive Section where
  | unused
  | compliance
deriving DecidableEq

/-- What a report shows: its sections, and the families of issues in their order. -/
structure Selection where
  sections : List Section
  families : List Family
deriving DecidableEq

def Selection.everything : Selection := ⟨[.unused, .compliance], Family.all⟩

/-- What calls for action in the issues of one family: how many there are of the gravest kind,
and the sentence about them. -/
structure ActionKind where
  family : Family
  isMeant : Finding → Bool
  sentence : String → String

/-- Graver kinds of issues come first. -/
def actionKinds : List ActionKind := [
  ⟨.interlacing, fun finding => finding = .interlacing "critical",
    fun count => "Fix " ++ count ++ " critical PNG interlacing issues"⟩,
  ⟨.colorProfile, fun finding => finding matches .colorProfile .missing _ _,
    fun count => "Add color profiles to " ++ count ++ " images"⟩,
  ⟨.catalog, fun finding => finding matches .catalog .missingScale _,
    fun count => "Add missing scale variants for " ++ count ++ " images"⟩,
  ⟨.designQuality,
    fun finding => finding matches .designQuality .tooSmall _ | .designQuality .oversized _,
    fun count => "Address " ++ count ++ " design quality issues"⟩]

/-- The number of issues that an action is about. -/
def ActionKind.count (kind : ActionKind) (issues : IssuesByFamily) : Nat :=
  (issues.of kind.family).countP fun issue => kind.isMeant issue.finding

/-- The actions that the issues of the selected families call for. -/
def complianceActions (issues : IssuesByFamily) (families : List Family) : List String :=
  (actionKinds.filter fun kind => families.contains kind.family && kind.count issues != 0).map
    fun kind => kind.sentence (Text.decimal (kind.count issues))

/-- The action that unused images call for. -/
def unusedActions (report : AuditReport) : Except SizeFailure (List String) := do
  if report.usage.unused.isEmpty then return []
  let size ← sizeText report.unusedSize
  return ["Remove " ++ Text.decimal report.usage.unused.length ++ " unused images to save " ++ size]

/-- What to do first, the most valuable action in front.  Only selected sections and families
call for action. -/
def actionItems (report : AuditReport) (selection : Selection) :
    Except SizeFailure (List String) := do
  let unused ← if selection.sections.contains .unused then unusedActions report else pure []
  return unused ++
    if selection.sections.contains .compliance then
      complianceActions report.compliance.issues selection.families
    else []

end AssetAudit
