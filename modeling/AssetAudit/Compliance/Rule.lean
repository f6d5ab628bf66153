import AssetAudit.Compliance.Issue

namespace AssetAudit

/-! Compliance rules. -/

/-- Why a rule gives no issues. -/
inductive RuleFailure where
  /-- The rule does not say how to check. -/
  | noCheck (rule : String)
  /-- The rule raised an issue of another family than its own. -/
  | wrongFamily (rule : String) (raised expected : Family)
  /-- The pixels of an image are too many to be shown. -/
  | areaOutOfRange
deriving DecidableEq

/-- The text for a quotient that no binary number of the usual range comes near. -/
def quotientOutOfRange : String := "integer division result too large for a float"

def RuleFailure.message : RuleFailure → String
  | noCheck rule => "Rule " ++ rule ++ " has no run function"
  | wrongFamily rule raised expected =>
      "Rule " ++ rule ++ " produced " ++ raised.issueType ++ ", expected " ++ expected.issueType
  | areaOutOfRange => quotientOutOfRange

structure Rule where
  name : String
  family : Family
  summary : String
  /-- How the rule looks at the images of a project, all of them at once. -/
  check : Option (List Asset → Except RuleFailure (List Issue))

/-- The issues of a rule, all of which belong to its family. -/
def Rule.issues (rule : Rule) (assets : List Asset) : Except RuleFailure (List Issue) :=
  match rule.check with
  | none => .error (.noCheck rule.name)
  | some check => do
      let issues ← check assets
      match issues.find? fun issue => issue.family ≠ rule.family with
      | some stray => throw (.wrongFamily rule.name stray.family rule.family)
      | none => return issues

end AssetAudit
