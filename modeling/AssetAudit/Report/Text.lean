import AssetAudit.Report.Basic

namespace AssetAudit.TextReport

/-! The report as text for a terminal. -/

def familyTitle : Family → String
  | .interlacing => "PNG interlacing"
  | .colorProfile => "Color profiles"
  | .catalog => "Asset Catalog organization"
  | .designQuality => "Design quality"

/-- Critical issues are marked with a cross. -/
def issueMark (issue : Issue) : String := if issue.isCritical then "✗" else "!"

/-- The line that opens an issue. -/
def issueLine (issue : Issue) : String :=
  "  " ++ issueMark issue ++ " " ++ issue.asset.path ++ ": " ++ issue.description

def issueLines (issue : Issue) : List String :=
  [issueLine issue, "      " ++ issue.recommendation]

def familyLines (issues : IssuesByFamily) (family : Family) : List String :=
  ("── " ++ familyTitle family ++ " (" ++ Text.decimal (issues.of family).length ++ ")") ::
    (issues.of family).flatMap issueLines

def unusedLine (asset : Asset) : Except SizeFailure String := do
  return "  " ++ asset.path ++ "  " ++ (← sizeText asset.byteSize)

def lookupLine (lookup : DynamicLookup) : String :=
  "    " ++ lookup.file ++ ":" ++ Text.decimal lookup.line ++ " " ++ lookup.description

def exemptLines (exempt : List (Asset × String)) : List String :=
  if exempt.isEmpty then []
  else ["  (" ++ Text.decimal exempt.length ++ " exempt: test, watch or system-managed)"]

def lookupLines (lookups : List DynamicLookup) : List String :=
  if lookups.isEmpty then []
  else
    ("  " ++ Text.decimal lookups.length ++
      " dynamic image lookups; some images may be loaded at runtime") :: lookups.map lookupLine

def unusedSection (report : AuditReport) : Except SizeFailure (List String) := do
  let usage := report.usage
  let size ← sizeText report.unusedSize
  let assets ← usage.unused.mapM unusedLine
  return ("── Unused images (" ++ Text.decimal usage.unused.length ++ ", " ++ size ++ ")") ::
    assets ++ exemptLines usage.exempt ++ lookupLines usage.dynamicLookups ++ [""]

def scoreLine (compliance : ComplianceReport) : String :=
  "Compliance score " ++ Text.decimal compliance.score ++ "/100  critical " ++
    Text.decimal compliance.criticalCount ++ "  warning " ++
    Text.decimal compliance.warningCount ++ "  total " ++ Text.decimal compliance.totalCount

def complianceSection (compliance : ComplianceReport) (families : List Family) : List String :=
  (families.flatMap fun family => familyLines compliance.issues family ++ [""]) ++
    [scoreLine compliance]

/-- Lines that end with an empty one. -/
def endedByBlank (lines : List String) : List String :=
  if lines.getLast? = some "" then lines else lines ++ [""]

def numbered (items : List String) : List String :=
  items.mapIdx fun index item => "  " ++ Text.decimal (index + 1 : Nat) ++ ". " ++ item

def actionLines (items : List String) : List String :=
  "── Prioritized action items" ::
    if items.isEmpty then ["  ✓ No critical issues found. Images follow Apple guidelines."]
    else numbered items

def skippedLines (skipped : List SkippedFile) : List String :=
  if skipped.isEmpty then []
  else
    ["", "Skipped " ++ Text.decimal skipped.length ++ " unreadable file(s):"] ++
      skipped.map fun file => "  " ++ file.path ++ ": " ++ file.reason

def headLines (report : AuditReport) : Except SizeFailure (List String) := do
  let size ← sizeText report.totalSize
  return ["asset-tool: " ++ report.root ++ " (" ++ Text.decimal report.assets.length ++
    " images, " ++ size ++ ")", ""]

def lines (report : AuditReport) (selection : Selection) : Except SizeFailure (List String) := do
  let head ← headLines report
  let unused ← if selection.sections.contains .unused then unusedSection report else pure []
  let compliance :=
    if selection.sections.contains .compliance then
      complianceSection report.compliance selection.families
    else []
  let actions ← actionItems report selection
  return endedByBlank (head ++ unused ++ compliance) ++ actionLines actions ++
    skippedLines report.skippedFiles

def text (report : AuditReport) (selection : Selection) : Except SizeFailure String := do
  return String.intercalate "\n" (← lines report selection)

end AssetAudit.TextReport
