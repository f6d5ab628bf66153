import AssetAudit.Literal.Table
import AssetAudit.Text.Lines

namespace AssetAudit

/-! The literals of a text, rule by rule and from left to right within a rule. -/

/-- A captured name with the rule that captured it and the line on which its match starts. -/
structure Literal where
  rule : String
  text : String
  line : Nat
deriving DecidableEq

namespace Literal

/-- The literals that one rule finds. -/
def ofRule (lines : Text.LineIndex) (text : List Char) (rule : AccessRule) : List Literal :=
  (rule.pattern.findAll text).flatMap fun found =>
    (rule.names found).map fun name => ⟨rule.name, name, lines.lineOf found.offset⟩

/-- All literals of a text of this category. -/
def ofText (category : Category) (text : String) : List Literal :=
  (AccessRule.ofCategory category).flatMap
    (ofRule (Text.LineIndex.ofText text.toList) text.toList)

def ofSource (source : SourceFile) : List Literal := ofText source.category source.text

end Literal

end AssetAudit
