import AssetAudit.Compliance.Registry
import AssetAudit.Log
import AssetAudit.Project.Survey
import AssetAudit.Report.Basic

namespace AssetAudit

/-! An audit: from the survey of a project to the report about it. -/

inductive AuditFailure where
  | survey (failure : SurveyFailure)
  | noWorkers
  | rule (failure : RuleFailure)
deriving DecidableEq

def AuditFailure.message : AuditFailure → String
  | survey failure => failure.message
  | noWorkers => "max_workers must be greater than 0"
  | rule failure => failure.message

/-- The names that the sources of a project refer to. -/
def Extraction.usedNames (extraction : Extraction) (bundleImages : List String)
    (config : Config) : List String :=
  AssetAudit.usedNames extraction.references (extraction.templates.map (·.template))
    extraction.table bundleImages config

namespace Survey

/-- Reads a project with the workers of a configuration.  They take over when the directories have
been walked; from there on, one is needed even if no file is to be read. -/
def readWithWorkers (workspace : Workspace) (root : String) (config : Config) :
    Except AuditFailure Survey :=
  match read workspace root config.fallbackExtensions with
  | .error (.scan failure) => .error (.survey (.scan failure))
  | outcome => if 1 ≤ config.workers then outcome.mapError .survey else .error .noWorkers

/-- Which images are used, given what the sources say. -/
def usage (survey : Survey) (extraction : Extraction) (config : Config) : Usage :=
  .of survey.assets (extraction.usedNames survey.tree.bundleImages config) survey.sources
    extraction.dynamicLookups

def report (survey : Survey) (config : Config) (rules : List Rule) :
    Except RuleFailure AuditReport := do
  let compliance ← runCompliance rules survey.assets
  return ⟨survey.tree.root, survey.assets, survey.usage survey.extraction config, compliance,
    survey.skipped⟩

end Survey

/-- Audits the project in a directory. -/
def audit (workspace : Workspace) (root : String) (config : Config) (rules : List Rule) :
    Except AuditFailure AuditReport := do
  let survey ← Survey.readWithWorkers workspace root config
  (survey.report config rules).mapError .rule

end AssetAudit
