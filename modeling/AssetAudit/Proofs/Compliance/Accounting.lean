import AssetAudit.Compliance.Score
import AssetAudit.Proofs.Outcome
import AssetAudit.Proofs.Text.CanonicalSet
import Mathlib.Data.List.Perm.Basic

namespace AssetAudit

/-! A compliance report accounts for all that the rules raised.  Its lists, its counts and a failure
depend on the rules alone, not on the order in which they are given. -/

namespace Rule

/-- What the check of a rule says of the images, before it is looked at. -/
def emitted (assets : List Asset) (rule : Rule) : List Issue :=
  match rule.check with
  | none => []
  | some check => (check assets).toOption.getD []

/-- The rule has a check, which returns issues of the family of the rule. -/
structure Runs (assets : List Asset) (rule : Rule) : Prop where
  checked : ∃ check, rule.check = some check ∧ check assets = .ok (rule.emitted assets)
  own : ∀ issue ∈ rule.emitted assets, issue.family = rule.family

variable {assets : List Asset} {rules others : List Rule} {rule : Rule}

theorem issues_eq_emitted {found : List Issue} (raised : rule.issues assets = .ok found) :
    found = rule.emitted assets ∧ rule.Runs assets := by
  unfold Rule.issues at raised
  cases given : rule.check with
  | none =>
      rw [given] at raised
      cases raised
  | some check =>
      rw [given] at raised
      obtain ⟨issues, checked, raised⟩ := bind_eq_ok.mp raised
      have emitted : rule.emitted assets = issues := by
        simp [Rule.emitted, given, checked, Except.toOption]
      split at raised
      · cases raised
      · rename_i noStray
        obtain rfl := Except.ok.inj raised
        refine ⟨emitted.symm, ⟨check, given, by rw [emitted, checked]⟩, fun issue member => ?_⟩
        rw [emitted] at member
        simpa using List.find?_eq_none.mp noStray issue member

section Order

theorem sorted_perm (rules : List Rule) : (Rule.sorted rules).Perm rules :=
  List.mergeSort_perm rules _

theorem mem_sorted : rule ∈ Rule.sorted rules ↔ rule ∈ rules := (sorted_perm rules).mem_iff

variable (distinct : (rules.map (·.name)).Nodup)

include distinct

/-- No two rules of the sorted list have one name, so each one is before the next. -/
theorem sorted_strict : (Rule.sorted rules).Pairwise fun first second => first.name < second.name := by
  have ascending : (Rule.sorted rules).Pairwise fun first second =>
      decide (first.name ≤ second.name) := by
    apply List.pairwise_mergeSort
    · intro _ _ _ first second
      exact decide_eq_true (String.le_trans (of_decide_eq_true first) (of_decide_eq_true second))
    · intro first second
      simpa using String.le_total first.name second.name
  have sortedDistinct : (Rule.sorted rules).Pairwise fun first second =>
      first.name ≠ second.name :=
    List.pairwise_map.mp (((sorted_perm rules).map _).nodup_iff.mpr distinct)
  exact ascending.imp₂ (fun _ _ below different =>
    Std.lt_of_le_of_ne (of_decide_eq_true below) different) sortedDistinct

theorem sorted_eq_of_perm (reordered : others.Perm rules) :
    Rule.sorted others = Rule.sorted rules := by
  have otherDistinct : (others.map (·.name)).Nodup := (reordered.map _).nodup_iff.mpr distinct
  refine Text.eq_of_strict_order (fun _ _ => String.lt_asymm) (sorted_strict otherDistinct)
    (sorted_strict distinct) fun rule => ?_
  rw [mem_sorted, mem_sorted, reordered.mem_iff]

end Order

end Rule

/-- The issues of a family are those of the rules of that family. -/
theorem filter_emitted {rules : List Rule} {assets : List Asset}
    (ran : ∀ rule ∈ rules, rule.Runs assets) (family : Family) :
    (rules.flatMap (·.emitted assets)).filter (·.family = family) =
      (rules.filter (·.family = family)).flatMap (·.emitted assets) := by
  induction rules with
  | nil => rfl
  | cons rule later ih =>
      obtain ⟨here, there⟩ := List.forall_mem_cons.mp ran
      rw [List.flatMap_cons, List.filter_append, ih there, List.filter_cons]
      by_cases same : rule.family = family
      · have all : (rule.emitted assets).filter (·.family = family) = rule.emitted assets :=
          List.filter_eq_self.mpr fun issue member =>
            decide_eq_true ((here.own issue member).trans same)
        rw [if_pos (decide_eq_true same), List.flatMap_cons, all]
      · have none : (rule.emitted assets).filter (·.family = family) = [] :=
          List.filter_eq_nil_iff.mpr fun issue member => by simp [here.own issue member, same]
        rw [if_neg (by simp [same]), none, List.nil_append]

theorem IssuesByFamily.of_ofList (issues : List Issue) (family : Family) :
    (ofList issues).of family = issues.filter (·.family = family) := by
  cases family with
  | interlacing => rfl
  | colorProfile => rfl
  | catalog => rfl
  | designQuality => rfl

theorem IssuesByFamily.all_eq (issues : IssuesByFamily) :
    issues.all = issues.interlacing ++ issues.colorProfile ++ issues.catalog ++
      issues.designQuality := by
  simp [IssuesByFamily.all, Family.all, IssuesByFamily.of]

/-- What a report has of the rules that ran, which are given in the order of their names. -/
structure ComplianceReport.Accounts (report : ComplianceReport) (ordered : List Rule)
    (assets : List Asset) : Prop where
  ran : ∀ rule ∈ ordered, rule.Runs assets
  issues : ∀ family, report.issues.of family =
    (ordered.filter (·.family = family)).flatMap (·.emitted assets)
  own : ∀ family, ∀ issue ∈ report.issues.of family, issue.family = family
  total : report.totalCount = report.issues.interlacing.length +
    report.issues.colorProfile.length + report.issues.catalog.length +
    report.issues.designQuality.length
  critical : report.criticalCount =
    (report.issues.interlacing ++ report.issues.colorProfile ++ report.issues.catalog ++
      report.issues.designQuality).countP (·.severity = .critical)
  sum : report.criticalCount + report.warningCount = report.totalCount

section Run

variable {rules : List Rule} {assets : List Asset}

theorem runRules_eq_ok {results : List (Rule × List Issue)}
    (ran : runRules rules assets = .ok results) :
    results = (Rule.sorted rules).map (fun rule => (rule, rule.emitted assets)) ∧
      ∀ rule ∈ Rule.sorted rules, rule.Runs assets := by
  constructor
  · refine mapM_eq_ok_map (fun rule result here => ?_) ran
    obtain ⟨found, raised, here⟩ := bind_eq_ok.mp here
    obtain rfl := Except.ok.inj here
    rw [(Rule.issues_eq_emitted raised).1]
  · intro rule member
    obtain ⟨result, -, here⟩ := ok_of_mapM ran member
    obtain ⟨found, raised, -⟩ := bind_eq_ok.mp here
    exact (Rule.issues_eq_emitted raised).2

theorem runRules_eq_error {failure : RuleFailure} :
    runRules rules assets = .error failure ↔
      ∃ before rule after, Rule.sorted rules = before ++ rule :: after ∧
        (∀ other ∈ before, ∃ found, other.issues assets = .ok found) ∧
        rule.issues assets = .error failure := by
  have failed : ∀ rule : Rule, (do return (rule, ← rule.issues assets)) = Except.error failure ↔
      rule.issues assets = .error failure := by
    intro rule
    simp [bind_eq_error, pure, Except.pure]
  have passed : ∀ rule : Rule, (∃ result, (do return (rule, ← rule.issues assets)) =
      (Except.ok result : Except RuleFailure (Rule × List Issue))) ↔
        ∃ found, rule.issues assets = .ok found := by
    intro rule
    simp [bind_eq_ok, pure, Except.pure]
  simp only [runRules, mapM_eq_error, failed, passed]

theorem runCompliance_eq_error {failure : RuleFailure} :
    runCompliance rules assets = .error failure ↔ runRules rules assets = .error failure := by
  simp [runCompliance, bind_eq_error, pure, Except.pure]

/-- A run fails as the first of its failing rules by name. -/
theorem runCompliance_fails_iff (distinct : (rules.map (·.name)).Nodup) {failure : RuleFailure} :
    runCompliance rules assets = .error failure ↔
      ∃ rule ∈ rules, rule.issues assets = .error failure ∧
        ∀ other ∈ rules, other.name < rule.name → ∃ found, other.issues assets = .ok found := by
  rw [runCompliance_eq_error, runRules_eq_error]
  have strict := Rule.sorted_strict distinct
  constructor
  · intro failed
    obtain ⟨before, rule, after, cut, passed, failed⟩ := failed
    refine ⟨rule, Rule.mem_sorted.mp (by simp [cut]), failed, fun other member precedes => ?_⟩
    rw [cut, List.pairwise_append, List.pairwise_cons] at strict
    rcases List.mem_append.mp (cut ▸ Rule.mem_sorted.mpr member) with first | later
    · exact passed other first
    · rcases List.mem_cons.mp later with rfl | behind
      · exact absurd precedes (String.lt_irrefl _)
      · exact absurd precedes (String.lt_asymm (strict.2.1.1 other behind))
  · intro failed
    obtain ⟨rule, member, failed, passed⟩ := failed
    obtain ⟨before, after, cut⟩ := List.append_of_mem (Rule.mem_sorted.mpr member)
    refine ⟨before, rule, after, cut, fun other first => ?_, failed⟩
    rw [cut, List.pairwise_append] at strict
    exact passed other (Rule.mem_sorted.mp (by simp [cut, first]))
      (strict.2.2 other first rule (by simp))

theorem accounts_of_runCompliance {report : ComplianceReport}
    (ran : runCompliance rules assets = .ok report) :
    report.Accounts (Rule.sorted rules) assets := by
  obtain ⟨results, made, ran⟩ := bind_eq_ok.mp ran
  obtain rfl := Except.ok.inj ran
  obtain ⟨rfl, runs⟩ := runRules_eq_ok made
  have issues : ∀ family,
      (IssuesByFamily.ofList (((Rule.sorted rules).map fun rule =>
        (rule, rule.emitted assets)).flatMap (·.2))).of family =
          ((Rule.sorted rules).filter (·.family = family)).flatMap (·.emitted assets) := by
    intro family
    rw [IssuesByFamily.of_ofList, List.flatMap_map, filter_emitted runs]
  refine ⟨runs, issues, fun family issue member => ?_, ?_, ?_, ?_⟩
  · rw [ComplianceReport.ofIssues, IssuesByFamily.of_ofList, List.mem_filter] at member
    exact of_decide_eq_true member.2
  · simp [ComplianceReport.ofIssues, IssuesByFamily.all_eq, Nat.add_assoc]
  · simp only [ComplianceReport.ofIssues, IssuesByFamily.all_eq]
    rfl
  · exact Nat.add_sub_cancel' (List.countP_le_length ..)

/-- The rules may come in any order.  The report accounts for all they raise, in the order of their
names, and the first failure in that order is the failure of the whole. -/
theorem compliance_accounts (distinct : (rules.map (·.name)).Nodup) (assets : List Asset) :
    (∀ others : List Rule, others.Perm rules →
      runCompliance others assets = runCompliance rules assets) ∧
    (∀ report, runCompliance rules assets = .ok report →
      ∃ ordered, ordered.Perm rules ∧
        ordered.Pairwise (fun first second => first.name < second.name) ∧
        report.Accounts ordered assets) ∧
    ∀ failure, runCompliance rules assets = .error failure ↔
      ∃ rule ∈ rules, rule.issues assets = .error failure ∧
        ∀ other ∈ rules, other.name < rule.name → ∃ found, other.issues assets = .ok found := by
  refine ⟨fun others reordered => ?_, fun report ran => ?_, fun failure => ?_⟩
  · simp only [runCompliance, runRules, Rule.sorted_eq_of_perm distinct reordered]
  · exact ⟨Rule.sorted rules, Rule.sorted_perm rules, Rule.sorted_strict distinct,
      accounts_of_runCompliance ran⟩
  · exact runCompliance_fails_iff distinct

end Run

section Named

def palettePng : Asset :=
  ⟨"logo", "logo.png", 1, .png, "png", none, none, none, none, none⟩

def namedIssue (name : String) : Issue := ⟨palettePng, name, .interlacing "critical"⟩

/-- A rule that always raises one issue, which has the name of the rule as its message. -/
def namedRule (name : String) : Rule :=
  ⟨name, .interlacing, "", some fun _ => .ok [namedIssue name]⟩

theorem zebraAndApple_accounted :
    ([namedRule "zebra", namedRule "apple"].map (·.name)).Nodup ∧
      runCompliance [namedRule "apple", namedRule "zebra"] [palettePng] =
        runCompliance [namedRule "zebra", namedRule "apple"] [palettePng] ∧
      ∃ report, runCompliance [namedRule "zebra", namedRule "apple"] [palettePng] = .ok report ∧
        report.issues.of .interlacing = [namedIssue "apple", namedIssue "zebra"] := by
  have distinct : ([namedRule "zebra", namedRule "apple"].map (·.name)).Nodup := by decide
  obtain ⟨reordered, accounted, failing⟩ := compliance_accounts distinct [palettePng]
  refine ⟨distinct, reordered _ (List.Perm.swap ..), ?_⟩
  cases ran : runCompliance [namedRule "zebra", namedRule "apple"] [palettePng] with
  | error failure =>
      obtain ⟨rule, member, failed, -⟩ := (failing failure).mp ran
      rcases List.mem_pair.mp member with rfl | rfl <;> cases failed
  | ok report =>
      obtain ⟨ordered, all, ascending, accounts⟩ := accounted report ran
      have swapped : [namedRule "apple", namedRule "zebra"].Pairwise
          fun first second => first.name < second.name := by
        decide
      obtain rfl : ordered = [namedRule "apple", namedRule "zebra"] :=
        Text.eq_of_strict_order (fun _ _ => String.lt_asymm) ascending swapped fun rule => by
          rw [all.mem_iff, List.mem_pair, List.mem_pair, or_comm]
      exact ⟨report, rfl, accounts.issues .interlacing⟩

end Named

end AssetAudit
