import AssetAudit.Proofs.Compliance.Accounting
import AssetAudit.Proofs.Compliance.ImageSets
import AssetAudit.Proofs.Compliance.Standard
import Mathlib.Data.List.Forall2

namespace AssetAudit

/-! The outcome of the built-in rules does not depend on the order of the images.  An issue of
missing scales speaks of a set, and only the image it names may be another one of that set. -/

section SameOutcome

/-- Two steps fail alike, or both succeed with related results. -/
inductive SameOutcome (related : α → β → Prop) : Except ε α → Except ε β → Prop
  | ok {first : α} {second : β} (same : related first second) :
      SameOutcome related (.ok first) (.ok second)
  | error (failure : ε) : SameOutcome related (.error failure) (.error failure)

variable {related : α → β → Prop} {first : Except ε α} {second : Except ε β}

theorem SameOutcome.bind {after : γ → δ → Prop} {next : α → Except ε γ} {other : β → Except ε δ}
    (alike : SameOutcome related first second)
    (step : ∀ value result, related value result → SameOutcome after (next value) (other result)) :
    SameOutcome after (first >>= next) (second >>= other) := by
  cases alike with
  | ok same => exact step _ _ same
  | error failure => exact .error failure

theorem SameOutcome.mapM {items : List γ} {f : γ → Except ε α} {g : γ → Except ε β}
    (each : ∀ item ∈ items, SameOutcome related (f item) (g item)) :
    SameOutcome (List.Forall₂ related) (items.mapM f) (items.mapM g) := by
  induction items with
  | nil => exact .ok .nil
  | cons item items ih =>
      obtain ⟨here, later⟩ := List.forall_mem_cons.mp each
      rw [List.mapM_cons, List.mapM_cons]
      exact here.bind fun _ _ same => (ih later).bind fun _ _ rest => .ok (.cons same rest)

/-- Where all failures are the same one, the order of the items decides neither success nor
failure. -/
theorem SameOutcome.mapM_perm {f : α → Except ε (List β)} {items others : List α} {failure : ε}
    (only : ∀ item other, f item = .error other → other = failure) (reordered : others.Perm items) :
    SameOutcome List.Perm (items.mapM f) (others.mapM f) := by
  have given (item : α) (result : List β) (made : f item = .ok result) :
      result = (f item).toOption.getD [] := by
    simp [made, Except.toOption]
  cases here : items.mapM f with
  | error first =>
      obtain ⟨before, item, after, rfl, -, failed⟩ := mapM_eq_error.mp here
      have failing : Fails (others.mapM f) :=
        fails_mapM.mpr ⟨item, reordered.mem_iff.mpr (by simp), first, failed⟩
      obtain ⟨second, there⟩ := failing
      obtain ⟨_, otherItem, _, -, -, otherFailed⟩ := mapM_eq_error.mp there
      rw [there, only item first failed, only otherItem second otherFailed]
      exact .error failure
  | ok results =>
      have each : ∀ item ∈ others, ∃ result, f item = .ok result := by
        intro item member
        obtain ⟨result, -, made⟩ := ok_of_mapM here (reordered.mem_iff.mp member)
        exact ⟨result, made⟩
      obtain ⟨otherResults, there⟩ := mapM_succeeds each
      rw [there, mapM_eq_ok_map given here, mapM_eq_ok_map given there]
      exact .ok (reordered.map _).symm

end SameOutcome

/-- What an issue is about.  An issue of missing scales is about a set and names any of its
images. -/
inductive IssueSubject where
  | image (asset : Asset)
  | imageSet (group : Option String)

namespace Issue

def subject (issue : Issue) : IssueSubject :=
  match issue.finding with
  | .catalog .missingScale _ => .imageSet issue.asset.catalogGroup
  | _ => .image issue.asset

/-- An issue without the image that stands for a set. -/
def view (issue : Issue) : IssueSubject × String × Finding :=
  (issue.subject, issue.recommendation, issue.finding)

end Issue

/-- The same issues in any order, whichever image stands for a set. -/
def SameIssues (issues others : List Issue) : Prop :=
  (issues.map Issue.view).Perm (others.map Issue.view)

namespace SameIssues

variable {issues others : List Issue}

theorem of_perm (reordered : issues.Perm others) : SameIssues issues others := reordered.map _

theorem append {more otherMore : List Issue} (first : SameIssues issues others)
    (second : SameIssues more otherMore) : SameIssues (issues ++ more) (others ++ otherMore) := by
  rw [SameIssues, List.map_append, List.map_append]
  exact List.Perm.append first second

theorem inFamily (same : SameIssues issues others) (family : Family) :
    SameIssues (issues.filter (·.family = family)) (others.filter (·.family = family)) := by
  have viewed (issues : List Issue) : (issues.filter (·.family = family)).map Issue.view =
      (issues.map Issue.view).filter (·.2.2.family = family) := by
    rw [List.filter_map]
    rfl
  rw [SameIssues, viewed, viewed]
  exact same.filter _

theorem length_eq (same : SameIssues issues others) : issues.length = others.length := by
  simpa using List.Perm.length_eq same

theorem countP_isCritical (same : SameIssues issues others) :
    issues.countP (·.isCritical) = others.countP (·.isCritical) := by
  have viewed (issues : List Issue) : issues.countP (·.isCritical) =
      (issues.map Issue.view).countP (·.2.2.severity = .critical) := by
    rw [List.countP_map]
    rfl
  rw [viewed, viewed, List.Perm.countP_eq _ same]

end SameIssues

/-- The same score, numbers and issues. -/
structure ComplianceReport.SameUpToOrder (report other : ComplianceReport) : Prop where
  score : report.score = other.score
  critical : report.criticalCount = other.criticalCount
  warning : report.warningCount = other.warningCount
  total : report.totalCount = other.totalCount
  issues : ∀ family, SameIssues (report.issues.of family) (other.issues.of family)

theorem ComplianceReport.sameUpToOrder_ofIssues {issues others : List Issue}
    (same : SameIssues issues others) (assetCount : Int) :
    SameUpToOrder (ofIssues (.ofList issues) assetCount)
      (ofIssues (.ofList others) assetCount) := by
  have families (family : Family) : SameIssues ((IssuesByFamily.ofList issues).of family)
      ((IssuesByFamily.ofList others).of family) := by
    rw [IssuesByFamily.of_ofList, IssuesByFamily.of_ofList]
    exact same.inFamily family
  have all : SameIssues (IssuesByFamily.ofList issues).all (IssuesByFamily.ofList others).all := by
    rw [IssuesByFamily.all_eq, IssuesByFamily.all_eq]
    exact (((families .interlacing).append (families .colorProfile)).append
      (families .catalog)).append (families .designQuality)
  have total := all.length_eq
  have critical := all.countP_isCritical
  exact
    { score := by simp only [ofIssues, total, critical]
      critical := critical
      warning := by simp only [ofIssues, total, critical]
      total := total
      issues := families }

/-- The outcome of the rule does not see the order of the images. -/
def Rule.IgnoresOrder (rule : Rule) : Prop :=
  ∀ assets others : List Asset, others.Perm assets →
    SameOutcome SameIssues (rule.issues assets) (rule.issues others)

theorem runCompliance_alike {rules : List Rule} (ignore : ∀ rule ∈ rules, rule.IgnoresOrder)
    {assets others : List Asset} (reordered : others.Perm assets) :
    SameOutcome ComplianceReport.SameUpToOrder (runCompliance rules assets)
      (runCompliance rules others) := by
  have each : ∀ rule ∈ Rule.sorted rules,
      SameOutcome (fun first second : Rule × List Issue => SameIssues first.2 second.2)
        (do return (rule, ← rule.issues assets)) (do return (rule, ← rule.issues others)) :=
    fun rule member => (ignore rule (Rule.mem_sorted.mp member) assets others reordered).bind
      fun _ _ same => .ok same
  refine (SameOutcome.mapM each).bind fun results otherResults same => ?_
  rw [reordered.length_eq]
  refine .ok (ComplianceReport.sameUpToOrder_ofIssues ?_ _)
  induction same with
  | nil => exact .of_perm (.refl _)
  | cons here _ ih => exact here.append ih

section Reordering

variable {assets others variants : List Asset} {rule : Rule}
  {check : List Asset → Except RuleFailure (List Issue)}

theorem Rule.issues_eq_check (checks : rule.check = some check)
    (own : ∀ found, check assets = .ok found → ∀ issue ∈ found, issue.family = rule.family) :
    rule.issues assets = check assets := by
  cases checked : check assets with
  | error failure =>
      unfold Rule.issues
      rw [checks]
      exact bind_eq_error.mpr (Or.inl checked)
  | ok found => exact Rule.issues_eq_ok checks checked (own found checked)

theorem Rule.ignoresOrder_of_check (checks : rule.check = some check)
    (own : ∀ assets found, check assets = .ok found → ∀ issue ∈ found, issue.family = rule.family)
    (alike : ∀ assets others : List Asset, others.Perm assets →
      SameOutcome SameIssues (check assets) (check others)) : rule.IgnoresOrder := by
  intro assets others reordered
  rw [Rule.issues_eq_check checks (own assets), Rule.issues_eq_check checks (own others)]
  exact alike assets others reordered

namespace Catalog

theorem missingScales_perm (reordered : others.Perm variants) :
    missingScales others = missingScales variants := by
  have present (scale : Int) : others.any (·.scale = some scale) =
      variants.any (·.scale = some scale) := reordered.any_eq
  simp only [missingScales, present]

/-- A lone variant has one order only. -/
theorem orphanedIssues_perm (reordered : others.Perm variants) :
    orphanedIssues others = orphanedIssues variants := by
  by_cases several : 2 ≤ variants.length
  · rw [orphanedIssues_eq_nil several, orphanedIssues_eq_nil (reordered.length_eq ▸ several)]
  · match variants with
    | [] => rw [reordered.eq_nil]
    | [only] => rw [List.perm_singleton.mp reordered]
    | _ :: _ :: _ => simp at several

/-- The image that stands for a set is one of its variants, whichever comes first. -/
theorem groupIssues_view {group : String} (reordered : others.Perm variants)
    (named : ∀ variant ∈ variants, variant.catalogGroup = some group) :
    (groupIssues others).map Issue.view = (groupIssues variants).map Issue.view := by
  cases variants with
  | nil => rw [reordered.eq_nil]
  | cons first rest =>
      obtain ⟨second, more, rfl⟩ : ∃ second more, others = second :: more :=
        List.exists_cons_of_length_pos (by rw [reordered.length_eq]; simp)
      have firstNamed := named first (by simp)
      have secondNamed := named second (reordered.mem_iff.mp (by simp))
      rw [groupIssues, groupIssues, List.map_append, List.map_append,
        orphanedIssues_perm reordered]
      refine congrArg (· ++ _) ?_
      simp only [missingIssues, missingScales_perm reordered]
      split
      · rfl
      · simp [Issue.view, Issue.subject, firstNamed, secondNamed]

theorem issues_same (reordered : others.Perm assets) :
    SameIssues (issues assets) (issues others) := by
  have sameGroups : groups others = groups assets :=
    Text.sortedSet_eq_of_mem_iff fun group => (reordered.filterMap _).mem_iff
  refine SameIssues.append (.of_perm ((reordered.symm.filter _).map _)) ?_
  rw [sameGroups, SameIssues, List.map_flatMap, List.map_flatMap]
  refine .of_eq (List.flatMap_congr fun group _ => ?_)
  exact (groupIssues_view (reordered.filter _) fun variant member =>
    (mem_variantsOf.mp member).2).symm

end Catalog

/-- The area of an image that has too many pixels to be shown is the one thing that fails. -/
theorem DesignQuality.issuesOf_error {asset : Asset} {failure : RuleFailure}
    (failed : issuesOf asset = .error failure) : failure = .areaOutOfRange := by
  unfold issuesOf at failed
  split at failed
  · cases failed
  · rcases bind_eq_error.mp failed with oversized | ⟨found, -, made⟩
    · unfold oversizedIssues at oversized
      split at oversized
      · split at oversized
        · cases oversized
        · exact (Except.error.inj oversized).symm
      · cases oversized
    · cases made

theorem builtIn_ignoresOrder (family : Family) : (Rule.builtIn family).IgnoresOrder := by
  cases family with
  | interlacing =>
      refine Rule.ignoresOrder_of_check rfl (fun assets found checked => ?_)
        fun assets others reordered => .ok (.of_perm ((reordered.symm.filter _).map _))
      exact Except.ok.inj checked ▸ interlacing_family
  | colorProfile =>
      refine Rule.ignoresOrder_of_check rfl (fun assets found checked => ?_)
        fun assets others reordered => .ok (.of_perm (reordered.symm.flatMap_right _))
      exact Except.ok.inj checked ▸ colorProfile_family
  | catalog =>
      refine Rule.ignoresOrder_of_check rfl (fun assets found checked => ?_)
        fun assets others reordered => .ok (Catalog.issues_same reordered)
      exact Except.ok.inj checked ▸ catalog_family
  | designQuality =>
      refine Rule.ignoresOrder_of_check rfl (fun assets found => designQuality_family)
        fun assets others reordered => ?_
      refine (SameOutcome.mapM_perm (fun _ _ => DesignQuality.issuesOf_error) reordered).bind
        fun lists otherLists same => .ok (.of_perm same.flatten)

/-- Images in another order have the same report up to the order of its issues, or the run fails
alike. -/
theorem compliance_independent_of_order (reordered : others.Perm assets) :
    SameOutcome ComplianceReport.SameUpToOrder (runCompliance Rule.standard assets)
      (runCompliance Rule.standard others) := by
  refine runCompliance_alike (fun rule member => ?_) reordered
  obtain ⟨family, -, rfl⟩ := List.mem_map.mp member
  exact builtIn_ignoresOrder family

end Reordering

section Star

open Catalog (starVariant okButton)

/-- Another variant of the set stands for it, and the reports are still the same. -/
theorem star_report_in_either_order :
    [starVariant 3, okButton, starVariant 2].Perm [starVariant 2, okButton, starVariant 3] ∧
      ∃ report other,
        runCompliance Rule.standard [starVariant 2, okButton, starVariant 3] = .ok report ∧
        runCompliance Rule.standard [starVariant 3, okButton, starVariant 2] = .ok other ∧
        report.SameUpToOrder other := by
  have reordered :
      [starVariant 3, okButton, starVariant 2].Perm [starVariant 2, okButton, starVariant 3] := by
    decide
  have alike := compliance_independent_of_order reordered
  have readable : ∀ asset ∈ [starVariant 2, okButton, starVariant 3], asset.IsReadable := by
    intro asset member width height known
    have unknown : asset.dimensions = none := by
      simp only [List.mem_cons, List.not_mem_nil, or_false] at member
      rcases member with rfl | rfl | rfl <;> rfl
    rw [unknown] at known
    cases known
  obtain ⟨report, ran⟩ := runCompliance_standard readable
  refine ⟨reordered, report, ?_⟩
  rw [ran] at alike ⊢
  cases same : runCompliance Rule.standard [starVariant 3, okButton, starVariant 2] with
  | error failure =>
      rw [same] at alike
      cases alike
  | ok other =>
      rw [same] at alike
      cases alike with
      | ok same => exact ⟨other, rfl, rfl, same⟩

end Star

end AssetAudit
