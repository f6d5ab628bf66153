import AssetAudit.Placeholder
import Mathlib.Data.List.Infix

namespace AssetAudit

/-! The first placeholder of a name is found behind a text without backslashes, and its expression
may hold parentheses as long as it closes them. -/

/-- Every closing parenthesis has an opening one before it, and none stays open. -/
structure ClosesParentheses (text : List Char) : Prop where
  balanced : text.count '(' = text.count ')'
  opensFirst : ∀ before, before <+: text → before.count ')' ≤ before.count '('

instance : DecidablePred ClosesParentheses := fun text =>
  decidable_of_iff
    (text.count '(' = text.count ')' ∧
      ∀ before ∈ text.inits, before.count ')' ≤ before.count '(') <| by
    constructor
    · intro checked
      exact ⟨checked.1, fun before start => checked.2 before ((List.mem_inits _ _).mpr start)⟩
    · intro closed
      exact ⟨closed.balanced, fun before member =>
        closed.opensFirst before ((List.mem_inits _ _).mp member)⟩

namespace Placeholder

theorem cutAtOpener?_append {lead : List Char} (plain : '\\' ∉ lead) (rest : List Char) :
    cutAtOpener? (lead ++ '\\' :: '(' :: rest) = some (lead, rest) := by
  induction lead with
  | nil => rfl
  | cons c lead ih =>
      have other : c ≠ '\\' := fun same => plain (by simp [same])
      have found := ih fun member => plain (List.mem_cons_of_mem c member)
      rw [List.cons_append, cutAtOpener?]
      · rw [found, Option.map_some]
      · intro _ same
        exact (other same).elim

theorem cutAtClosing?_append {text : List Char} {depth : Nat}
    (opensFirst : ∀ before, before <+: text → before.count ')' ≤ depth + before.count '(')
    (rest : List Char) :
    cutAtClosing? depth (text ++ rest) =
      (cutAtClosing? (depth + text.count '(' - text.count ')') rest).map
        fun (inside, trail) => (text ++ inside, trail) := by
  induction text generalizing depth with
  | nil => simp
  | cons c text ih =>
      have later : ∀ before, before <+: text → (c :: before).count ')' ≤
          depth + (c :: before).count '(' :=
        fun before start => opensFirst _ (List.cons_prefix_cons.mpr ⟨rfl, start⟩)
      by_cases opening : c = '('
      · subst opening
        have inner : ∀ before, before <+: text → before.count ')' ≤
            depth + 1 + before.count '(' := by
          intro before start
          have bound := later before start
          simp at bound
          omega
        have total : depth + 1 + text.count '(' - text.count ')' =
            depth + ('(' :: text).count '(' - ('(' :: text).count ')' := by
          simp
          omega
        rw [List.cons_append, cutAtClosing?, ih inner, total, Option.map_map]
        rfl
      · by_cases closing : c = ')'
        · subst closing
          cases depth with
          | zero =>
              have bound := later [] List.nil_prefix
              simp at bound
          | succ depth =>
              have inner : ∀ before, before <+: text → before.count ')' ≤
                  depth + before.count '(' := by
                intro before start
                have bound := later before start
                simp at bound
                omega
              have total : depth + text.count '(' - text.count ')' =
                  depth + 1 + (')' :: text).count '(' - (')' :: text).count ')' := by
                simp
                omega
              rw [List.cons_append, cutAtClosing?, ih inner, total, Option.map_map]
              rfl
        · have inner : ∀ before, before <+: text → before.count ')' ≤
              depth + before.count '(' := by
            intro before start
            have bound := later before start
            rwa [List.count_cons_of_ne closing, List.count_cons_of_ne opening] at bound
          rw [List.cons_append, cutAtClosing?, ih inner, Option.map_map,
            List.count_cons_of_ne closing, List.count_cons_of_ne opening]
          · rfl
          all_goals simp [opening, closing]

theorem cutAtClosing?_closed {text : List Char} (closed : ClosesParentheses text)
    (trail : List Char) : cutAtClosing? 0 (text ++ ')' :: trail) = some (text, trail) := by
  have level : 0 + text.count '(' - text.count ')' = 0 := by
    rw [closed.balanced]
    omega
  have opensFirst : ∀ before, before <+: text → before.count ')' ≤ 0 + before.count '(' := by
    simpa using closed.opensFirst
  rw [cutAtClosing?_append opensFirst, level, cutAtClosing?, Option.map_some]
  simp

end Placeholder

theorem opensPlaceholder_append (lead rest : List Char) :
    opensPlaceholder (lead ++ '\\' :: '(' :: rest) = true := by
  induction lead with
  | nil => rfl
  | cons c lead ih =>
      rw [List.cons_append]
      unfold opensPlaceholder
      split
      · rfl
      · simp_all
      · simp_all

theorem opensPlaceholder_plain {text : List Char} (plain : '\\' ∉ text) :
    opensPlaceholder text = false := by
  induction text with
  | nil => rfl
  | cons c text ih =>
      have other : c ≠ '\\' := fun same => plain (by simp [same])
      rw [opensPlaceholder, ih fun member => plain (List.mem_cons_of_mem c member)]
      intro _ same
      exact (other same).elim

theorem hasPlaceholder_opened (lead rest : String) :
    hasPlaceholder (lead ++ "\\(" ++ rest) = true := by
  simp [hasPlaceholder, opensPlaceholder_append]

/-- A name is cut at its first placeholder. -/
theorem Template.ofName?_placeholder {lead expression : String} (plain : '\\' ∉ lead.toList)
    (nonempty : expression ≠ "") (trimmed : Text.strip expression.toList = expression.toList)
    (closed : ClosesParentheses expression.toList) (trail : String) :
    Template.ofName? (lead ++ "\\(" ++ expression ++ ")" ++ trail) =
      some ⟨lead, expression, trail⟩ := by
  have characters : (lead ++ "\\(" ++ expression ++ ")" ++ trail).toList =
      lead.toList ++ '\\' :: '(' :: (expression.toList ++ ')' :: trail.toList) := by
    simp
  simp [Template.ofName?, characters, Placeholder.cutAtOpener?_append plain,
    Placeholder.cutAtClosing?_closed closed, trimmed, nonempty]

end AssetAudit
