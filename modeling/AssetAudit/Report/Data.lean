import AssetAudit.Json.Writer
import AssetAudit.Report.Basic

namespace AssetAudit.DataReport

/-! The report as a JSON object. -/

def count (items : List α) : Json.Value := .int items.length

def summary (report : AuditReport) : Json.Value := .object [
  ("total_images", count report.assets),
  ("total_size", .int report.totalSize),
  ("unused_images", count report.usage.unused),
  ("unused_size", .int report.unusedSize),
  ("compliance_score", .int report.compliance.score)]

def exempt (entry : Asset × String) : Json.Value := .object [
  ("image", entry.1.toValue), ("reason", .string entry.2)]

def lookup (lookup : DynamicLookup) : Json.Value := .object [
  ("file", .string lookup.file),
  ("line", .int lookup.line),
  ("description", .string lookup.description),
  ("snippet", .string lookup.snippet)]

def unusedMembers (usage : Usage) : List (String × Json.Value) := [
  ("unused", .array (usage.unused.map Asset.toValue)),
  ("exempt", .array (usage.exempt.map exempt)),
  ("dynamic_references", .array (usage.dynamicLookups.map lookup))]

def issueList (issues : List Issue) : Json.Value := .array (issues.map Issue.toValue)

/-- The counts, and the issues of each selected family under its name. -/
def compliance (report : ComplianceReport) (families : List Family) : Json.Value :=
  .object (families.foldl
    (fun members family =>
      KeyedList.put members family.name (issueList (report.issues.of family)))
    [("score", .int report.score),
      ("critical", .int report.criticalCount),
      ("warning", .int report.warningCount),
      ("total", .int report.totalCount)])

def skipped (file : SkippedFile) : Json.Value := .object [
  ("path", .string file.path), ("reason", .string file.reason)]

def value (report : AuditReport) (selection : Selection) : Except SizeFailure Json.Value := do
  let actions ← actionItems report selection
  return .object (
    [("root", .string report.root), ("summary", summary report)] ++
    (if selection.sections.contains .unused then unusedMembers report.usage else []) ++
    (if selection.sections.contains .compliance then
      [("compliance", compliance report.compliance selection.families)] else []) ++
    [("action_items", Json.Value.strings actions),
      ("skipped_files", .array (report.skippedFiles.map skipped))])

def text (report : AuditReport) (selection : Selection) : Except SizeFailure String := do
  return (← value report selection).indented

end AssetAudit.DataReport
