import AssetAudit.Literal.Found
import AssetAudit.Proofs.Text.LineNumbers
import Mathlib.Data.List.Basic

namespace AssetAudit

/-! The literals of a text are kept apart by the rules that found them. -/

namespace Literal

theorem rule_of_mem_ofRule {lines : Text.LineIndex} {text : List Char} {rule : AccessRule}
    {literal : Literal} (member : literal ∈ ofRule lines text rule) : literal.rule = rule.name := by
  obtain ⟨found, _, named⟩ := List.mem_flatMap.mp member
  obtain ⟨name, _, rfl⟩ := List.mem_map.mp named
  rfl

theorem filter_rule (category : Category) (text name : String) :
    (ofText category text).filter (·.rule = name) =
      ((AccessRule.ofCategory category).filter (·.name = name)).flatMap
        (ofRule (Text.LineIndex.ofText text.toList) text.toList) := by
  rw [ofText]
  induction AccessRule.ofCategory category with
  | nil => rfl
  | cons rule rules ih =>
      rw [List.flatMap_cons, List.filter_append, ih]
      by_cases same : rule.name = name
      · have all : ∀ literal ∈ ofRule (Text.LineIndex.ofText text.toList) text.toList rule,
            decide (literal.rule = name) = true :=
          fun literal member => decide_eq_true ((rule_of_mem_ofRule member).trans same)
        rw [List.filter_eq_self.mpr all, List.filter_cons_of_pos (by simpa using same),
          List.flatMap_cons]
      · have none : ∀ literal ∈ ofRule (Text.LineIndex.ofText text.toList) text.toList rule,
            ¬ decide (literal.rule = name) = true := by
          intro literal member
          rw [rule_of_mem_ofRule member]
          simpa using same
        rw [List.filter_eq_nil_iff.mpr none, List.filter_cons_of_neg (by simpa using same),
          List.nil_append]

end Literal

end AssetAudit
