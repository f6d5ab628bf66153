import AssetAudit.Compliance.Rule

namespace AssetAudit

/-! The outcome of all compliance rules, and the score that it earns. -/

/-- What a critical issue on every image costs. -/
def criticalWeight : Int := 60

/-- What a warning on every image costs. -/
def warningWeight : Int := 30

/-- The score before it is confined to its range.  Each deduction is rounded down. -/
def rawScore (critical warning assetCount : Int) : Int :=
  100 - criticalWeight * critical / assetCount - warningWeight * warning / assetCount

/-- The score from zero to a hundred; a project without images has the full score. -/
def complianceScore (critical warning assetCount : Int) : Int :=
  if assetCount ≤ 0 then 100 else max 0 (min 100 (rawScore critical warning assetCount))

/-- The issues of each family. -/
structure IssuesByFamily where
  interlacing : List Issue
  colorProfile : List Issue
  catalog : List Issue
  designQuality : List Issue
deriving DecidableEq

namespace IssuesByFamily

def of (issues : IssuesByFamily) : Family → List Issue
  | .interlacing => issues.interlacing
  | .colorProfile => issues.colorProfile
  | .catalog => issues.catalog
  | .designQuality => issues.designQuality

def all (issues : IssuesByFamily) : List Issue := Family.all.flatMap issues.of

/-- Each issue under its own family, in the order given. -/
def ofList (issues : List Issue) : IssuesByFamily where
  interlacing := issues.filter (·.family = .interlacing)
  colorProfile := issues.filter (·.family = .colorProfile)
  catalog := issues.filter (·.family = .catalog)
  designQuality := issues.filter (·.family = .designQuality)

end IssuesByFamily

structure ComplianceReport where
  issues : IssuesByFamily
  assetCount : Int
  criticalCount : Nat
  warningCount : Nat
  totalCount : Nat
  score : Int
deriving DecidableEq

namespace ComplianceReport

/-- Counts and scores the issues. -/
def ofIssues (issues : IssuesByFamily) (assetCount : Int) : ComplianceReport :=
  let every := issues.all
  let critical := every.countP (·.isCritical)
  let warning := every.length - critical
  ⟨issues, assetCount, critical, warning, every.length,
    complianceScore critical warning assetCount⟩

end ComplianceReport

/-- Rules in ascending order of their names. -/
def Rule.sorted (rules : List Rule) : List Rule :=
  rules.mergeSort fun first second => first.name ≤ second.name

/-- Runs the rules in the order of their names.  The first failure ends the run. -/
def runRules (rules : List Rule) (assets : List Asset) :
    Except RuleFailure (List (Rule × List Issue)) :=
  (Rule.sorted rules).mapM fun rule => do return (rule, ← rule.issues assets)

def runCompliance (rules : List Rule) (assets : List Asset) :
    Except RuleFailure ComplianceReport := do
  let results ← runRules rules assets
  return .ofIssues (.ofList (results.flatMap fun (_, issues) => issues)) assets.length

end AssetAudit
