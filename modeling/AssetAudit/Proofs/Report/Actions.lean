import AssetAudit.Proofs.Outcome
import AssetAudit.Report.Basic
import Mathlib.Algebra.GroupWithZero.Nat
import Mathlib.Data.List.Basic

namespace AssetAudit

/-! What a report says to do first.  Its sentences state how many critical issues each family has,
and a smaller selection leaves some of them out. -/

namespace IssuesByFamily

/-- Every issue is under its own family. -/
def IsGrouped (issues : IssuesByFamily) : Prop :=
  ∀ family, ∀ issue ∈ issues.of family, issue.family = family

/-- How many issues of a family are critical. -/
def criticalCount (issues : IssuesByFamily) (family : Family) : Nat :=
  (issues.of family).countP (·.isCritical)

theorem sum_criticalCount (issues : IssuesByFamily) :
    (Family.all.map issues.criticalCount).sum = issues.all.countP (·.isCritical) := by
  rw [all, List.countP_flatMap]
  rfl

end IssuesByFamily

/-- What calls for action is what makes an issue critical. -/
theorem isMeant_iff_critical {kind : ActionKind} (member : kind ∈ actionKinds) {finding : Finding}
    (own : finding.family = kind.family) :
    kind.isMeant finding = true ↔ finding.severity = .critical := by
  simp only [actionKinds, List.mem_cons, List.not_mem_nil, or_false] at member
  rcases member with rfl | rfl | rfl | rfl
  · cases finding with
    | interlacing impact => by_cases critical : impact = "critical" <;> simp [Finding.severity, critical]
    | _ => cases own
  · cases finding with
    | colorProfile fault => cases fault <;> simp [Finding.severity]
    | _ => cases own
  · cases finding with
    | catalog fault => cases fault <;> simp [Finding.severity]
    | _ => cases own
  · cases finding with
    | designQuality fault => cases fault <;> simp [Finding.severity]
    | _ => cases own

theorem ActionKind.count_eq {kind : ActionKind} (member : kind ∈ actionKinds)
    {issues : IssuesByFamily} (grouped : issues.IsGrouped) :
    kind.count issues = issues.criticalCount kind.family := by
  refine List.countP_congr fun issue among => ?_
  exact (isMeant_iff_critical member (grouped kind.family issue among)).trans
    decide_eq_true_iff.symm

section Sentences

/-- The number that a sentence states in digits. -/
def statedCount (sentence : String) : Nat :=
  Nat.ofDigitChars 10 (sentence.toList.filter Char.isDigit) 0

theorem statedCount_around {before after : String} (count : Nat)
    (plainBefore : before.toList.filter Char.isDigit = [])
    (plainAfter : after.toList.filter Char.isDigit = []) :
    statedCount (before ++ Text.decimal count ++ after) = count := by
  have digits : (Text.decimal count).toList.filter Char.isDigit = Nat.toDigits 10 count := by
    show (Nat.repr count).toList.filter Char.isDigit = _
    rw [Nat.toList_repr, List.filter_eq_self]
    exact fun c member => Nat.isDigit_of_mem_toDigits (by decide) (by decide) member
  simp only [statedCount, String.toList_append, List.filter_append, plainBefore, plainAfter, digits,
    List.nil_append, List.append_nil]
  exact Nat.ofDigitChars_toDigits (by decide) (by decide)

theorem statedCount_sentence {kind : ActionKind} (member : kind ∈ actionKinds) (count : Nat) :
    statedCount (kind.sentence (Text.decimal count)) = count := by
  simp only [actionKinds, List.mem_cons, List.not_mem_nil, or_false] at member
  rcases member with rfl | rfl | rfl | rfl
  · exact statedCount_around count (by decide) (by decide)
  · exact statedCount_around count (by decide) (by decide)
  · exact statedCount_around count (by decide) (by decide)
  · exact statedCount_around count (by decide) (by decide)

end Sentences

section Actions

variable {issues : IssuesByFamily} {families : List Family}

/-- A kind without issues says nothing and would state zero. -/
theorem sum_statedCount (complete : ∀ family, family ∈ families) (grouped : issues.IsGrouped) :
    ((complianceActions issues families).map statedCount).sum =
      issues.all.countP (·.isCritical) := by
  have each : ∀ kinds : List ActionKind, (∀ kind ∈ kinds, kind ∈ actionKinds) →
      (((kinds.filter fun kind => families.contains kind.family && kind.count issues != 0).map
        fun kind => kind.sentence (Text.decimal (kind.count issues))).map statedCount).sum =
      (kinds.map fun kind => issues.criticalCount kind.family).sum := by
    intro kinds among
    induction kinds with
    | nil => rfl
    | cons kind rest ih =>
        obtain ⟨here, there⟩ := List.forall_mem_cons.mp among
        have known : families.contains kind.family = true :=
          List.contains_iff_mem.mpr (complete kind.family)
        rw [List.filter_cons, List.map_cons, List.sum_cons, ← ih there, ← kind.count_eq here grouped,
          known, Bool.true_and]
        split
        · simp only [List.map_cons, List.sum_cons, statedCount_sentence here]
        · rename_i zero
          have none : kind.count issues = 0 := by simpa using zero
          rw [none, Nat.zero_add]
  rw [← issues.sum_criticalCount]
  exact each actionKinds fun _ => id

theorem complianceActions_eq_nil (complete : ∀ family, family ∈ families)
    (grouped : issues.IsGrouped) :
    complianceActions issues families = [] ↔ issues.all.countP (·.isCritical) = 0 := by
  rw [← sum_statedCount complete grouped]
  constructor
  · intro none
    rw [none]
    rfl
  · intro zero
    rw [complianceActions, List.map_eq_nil_iff, List.filter_eq_nil_iff]
    intro kind member asked
    rw [Bool.and_eq_true, bne_iff_ne] at asked
    have stated : statedCount (kind.sentence (Text.decimal (kind.count issues))) ∈
        (complianceActions issues families).map statedCount := by
      refine List.mem_map_of_mem (List.mem_map.mpr ⟨kind, List.mem_filter.mpr ⟨member, ?_⟩, rfl⟩)
      simpa using asked
    rw [statedCount_sentence member] at stated
    exact asked.2 (List.sum_eq_zero_iff_forall_eq_nat.mp zero _ stated)

theorem complianceActions_sublist (issues : IssuesByFamily) (families : List Family) :
    (complianceActions issues families).Sublist (complianceActions issues Family.all) := by
  refine List.Sublist.map _ (List.monotone_filter_right actionKinds fun kind asked => ?_)
  have listed : Family.all.contains kind.family = true := by cases kind.family <;> rfl
  rw [listed, Bool.true_and]
  exact (Bool.and_eq_true_iff.mp asked).2

end Actions

variable {report : AuditReport}

theorem unusedActions_eq_nil :
    unusedActions report = .ok [] ↔ report.usage.unused = [] := by
  unfold unusedActions
  cases report.usage.unused with
  | nil => simp [pure, Except.pure]
  | cons asset rest => simp [bind_eq_ok, pure, Except.pure]

/-- The actions of a selection are those about unused images and those about issues. -/
theorem actionItems_eq_ok {selection : Selection} {items : List String} :
    actionItems report selection = .ok items ↔
      ∃ unused, (if .unused ∈ selection.sections then unusedActions report else .ok []) = .ok unused ∧
        items = unused ++ if .compliance ∈ selection.sections then
          complianceActions report.compliance.issues selection.families else [] := by
  unfold actionItems
  by_cases shown : Section.unused ∈ selection.sections
  · rw [if_pos shown, if_pos (List.contains_iff_mem.mpr shown), bind_eq_ok]
    simp [pure, Except.pure, @eq_comm _ items]
  · rw [if_neg shown, if_neg (mt List.contains_iff_mem.mp shown), bind_eq_ok]
    simp [pure, Except.pure, @eq_comm _ items]

/-- What a selection shows is shown in the same order when all is selected. -/
theorem actionItems_sublist {full : List String}
    (all : actionItems report .everything = .ok full) (selection : Selection) :
    ∃ items, actionItems report selection = .ok items ∧ items.Sublist full := by
  obtain ⟨unused, made, rfl⟩ := actionItems_eq_ok.mp all
  have unusedMade : unusedActions report = .ok unused := made
  have fewer : (if .compliance ∈ selection.sections then
      complianceActions report.compliance.issues selection.families else []).Sublist
        (complianceActions report.compliance.issues Family.all) := by
    split
    · exact complianceActions_sublist _ _
    · exact List.nil_sublist _
  by_cases shown : Section.unused ∈ selection.sections
  · exact ⟨_, actionItems_eq_ok.mpr ⟨unused, by rw [if_pos shown, unusedMade], rfl⟩,
      (List.Sublist.refl unused).append fewer⟩
  · exact ⟨_, actionItems_eq_ok.mpr ⟨[], by rw [if_neg shown], rfl⟩,
      (List.nil_sublist unused).append fewer⟩

end AssetAudit
