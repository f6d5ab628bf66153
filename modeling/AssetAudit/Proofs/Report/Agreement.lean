import AssetAudit.Proofs.Report.Actions
import AssetAudit.Proofs.Report.Size
import Mathlib.Data.List.Infix

namespace AssetAudit

/-! All surfaces of a report agree on what is critical: the counts in its actions, the marks in its
text and the severities in its data. -/

namespace TextReport

def criticalMark : List Char := "  ✗ ".toList

/-- Does a line open with the mark of a critical issue? -/
def marksCritical (line : String) : Bool := criticalMark.isPrefixOf line.toList

/-- A line whose start differs from the mark does not bear it, whatever follows. -/
theorem marksCritical_append {start : String} (rest : String)
    (differs : (criticalMark.isPrefixOf start.toList || start.toList.isPrefixOf criticalMark) =
      false) : marksCritical (start ++ rest) = false := by
  rw [Bool.or_eq_false_iff] at differs
  rw [marksCritical, Bool.eq_false_iff, String.toList_append]
  intro marked
  rcases List.prefix_or_prefix_of_prefix (List.isPrefixOf_iff_prefix.mp marked)
    (List.prefix_append start.toList rest.toList) with within | around
  · exact Bool.eq_false_iff.mp differs.1 (List.isPrefixOf_iff_prefix.mpr within)
  · exact Bool.eq_false_iff.mp differs.2 (List.isPrefixOf_iff_prefix.mpr around)

theorem marksCritical_issueLine (issue : Issue) :
    marksCritical (issueLine issue) = issue.isCritical := by
  have line : issueLine issue = ("  " ++ issueMark issue ++ " ") ++
      (issue.asset.path ++ ": " ++ issue.description) := by
    simp only [issueLine, String.append_assoc]
  rw [line]
  unfold issueMark
  cases issue.isCritical with
  | true =>
      rw [marksCritical, String.toList_append]
      exact List.isPrefixOf_iff_prefix.mpr (List.prefix_append criticalMark _)
  | false => exact marksCritical_append _ (by decide)

theorem marks_issueLines (issues : List Issue) :
    (issues.flatMap issueLines).countP marksCritical = issues.countP (·.isCritical) := by
  induction issues with
  | nil => rfl
  | cons issue rest ih =>
      have advice : marksCritical ("      " ++ issue.recommendation) = false :=
        marksCritical_append _ (by decide)
      rw [List.flatMap_cons, List.countP_append, ih, issueLines, List.countP_cons, List.countP_cons,
        List.countP_nil, marksCritical_issueLine, advice, List.countP_cons]
      simp [Nat.add_comm]

theorem marks_familyLines (issues : IssuesByFamily) (family : Family) :
    (familyLines issues family).countP marksCritical = issues.criticalCount family := by
  have title : marksCritical ("── " ++ familyTitle family ++ " (" ++
      Text.decimal (issues.of family).length ++ ")") = false := by
    simp only [String.append_assoc]
    exact marksCritical_append _ (by decide)
  rw [familyLines, List.countP_cons_of_neg (by rw [title]; simp), marks_issueLines]
  rfl

theorem marks_scoreLine (compliance : ComplianceReport) :
    marksCritical (scoreLine compliance) = false := by
  unfold scoreLine
  simp only [String.append_assoc]
  rw [marksCritical_append]
  decide

/-- The compliance section marks the critical issues of each family it shows. -/
theorem marks_complianceSection (compliance : ComplianceReport) (families : List Family) :
    (complianceSection compliance families).countP marksCritical =
      (families.map compliance.issues.criticalCount).sum := by
  have blank : marksCritical "" = false := by decide
  rw [complianceSection, List.countP_append, List.countP_flatMap]
  simp [List.countP_append, marks_familyLines, blank, marks_scoreLine, Function.comp_def]

/-- The line that says that nothing calls for action. -/
def clearLine : String := "  ✓ No critical issues found. Images follow Apple guidelines."

/-- A numbered line has a digit where the line that says so has its tick. -/
theorem clearLine_ne_numbered (count : Nat) (item : String) :
    clearLine ≠ "  " ++ Text.decimal count ++ ". " ++ item := by
  intro same
  have characters := congrArg String.toList same
  have decimal : (Text.decimal count).toList = Nat.toDigits 10 count := Nat.toList_repr
  simp only [String.toList_append, decimal] at characters
  cases digits : Nat.toDigits 10 count with
  | nil => exact Nat.toDigits_ne_nil digits
  | cons digit rest =>
      have isDigit := Nat.isDigit_of_mem_toDigits (c := digit) (by decide) (by decide)
        (digits ▸ List.mem_cons_self)
      rw [digits] at characters
      have tick : '✓' = digit := (List.cons.inj (List.cons.inj (List.cons.inj characters).2).2).1
      rw [← tick] at isDigit
      cases isDigit

theorem clearLine_mem_actionLines {items : List String} :
    clearLine ∈ actionLines items ↔ items = [] := by
  unfold actionLines
  cases items with
  | nil => simp [clearLine]
  | cons item rest =>
      simp only [List.isEmpty_cons, Bool.false_eq_true, if_false, reduceCtorEq, iff_false,
        List.mem_cons, not_or]
      refine ⟨by decide, fun member => ?_⟩
      obtain ⟨index, _, line⟩ := List.mem_mapIdx.mp member
      exact clearLine_ne_numbered _ _ line.symm

theorem scoreLine_ne_blank (compliance : ComplianceReport) : scoreLine compliance ≠ "" := by
  intro blank
  have characters := congrArg String.toList blank
  unfold scoreLine at characters
  simp only [String.append_assoc, String.toList_append] at characters
  exact absurd (List.append_eq_nil_iff.mp characters).1 (by decide)

/-- The lines of a report with both sections. -/
theorem text_lines {report : AuditReport} {selection : Selection} {text : String}
    (unusedShown : .unused ∈ selection.sections)
    (complianceShown : .compliance ∈ selection.sections)
    (made : TextReport.text report selection = .ok text) :
    ∃ head unused items, headLines report = .ok head ∧ unusedSection report = .ok unused ∧
      actionItems report selection = .ok items ∧
      text = String.intercalate "\n" (head ++ unused ++
        complianceSection report.compliance selection.families ++ "" :: actionLines items ++
        skippedLines report.skippedFiles) := by
  have ended : ∀ before : List String,
      endedByBlank (before ++ complianceSection report.compliance selection.families) =
        before ++ complianceSection report.compliance selection.families ++ [""] := by
    intro before
    rw [endedByBlank, if_neg]
    simp [complianceSection, scoreLine_ne_blank]
  obtain ⟨found, gathered, made⟩ := bind_eq_ok.mp made
  obtain rfl := Except.ok.inj made
  unfold lines at gathered
  simp only [List.contains_iff_mem, if_pos unusedShown, if_pos complianceShown, ended] at gathered
  obtain ⟨head, headed, gathered⟩ := bind_eq_ok.mp gathered
  obtain ⟨unused, listed, gathered⟩ := bind_eq_ok.mp gathered
  obtain ⟨items, acted, gathered⟩ := bind_eq_ok.mp gathered
  obtain rfl := Except.ok.inj gathered
  exact ⟨head, unused, items, headed, listed, acted, by simp only [List.append_assoc]; rfl⟩

end TextReport

namespace DataReport

/-- Does a report call this issue critical? -/
def isCriticalItem (item : Json.Value) : Bool :=
  (item.member? "severity").bind Json.Value.string? = some "critical"

theorem isCriticalItem_toValue (issue : Issue) :
    isCriticalItem issue.toValue = issue.isCritical := by
  have severity : issue.toValue.member? "severity" = some (.string issue.severity.name) := rfl
  rw [isCriticalItem, severity]
  unfold Issue.isCritical
  cases issue.severity with
  | critical => rfl
  | warning => rfl

theorem familyName_inj {first second : Family} (same : first.name = second.name) :
    first = second := by
  have all : ∀ first ∈ Family.all, ∀ second ∈ Family.all, first.name = second.name →
      first = second := by decide
  exact all first (by cases first <;> decide) second (by cases second <;> decide) same

theorem get?_foldl_put (lists : Family → Json.Value) {families : List Family} {family : Family}
    (among : family ∈ families) (members : List (String × Json.Value)) :
    KeyedList.get? (families.foldl
      (fun members family => KeyedList.put members family.name (lists family)) members)
        family.name = some (lists family) := by
  induction families using List.reverseRecOn with
  | nil => cases among
  | append_singleton before last ih =>
      rw [List.foldl_append, List.foldl_cons, List.foldl_nil]
      by_cases same : family = last
      · rw [same, KeyedList.get?_put_same]
      · rw [KeyedList.get?_put_other _ _ fun name => same (familyName_inj name)]
        refine ih ?_
        simpa [same] using among

/-- The data of a report with both sections has the issues of every family under its name. -/
theorem value_compliance {report : AuditReport} {selection : Selection} {value : Json.Value}
    (complianceShown : .compliance ∈ selection.sections)
    (made : DataReport.value report selection = .ok value) :
    value.member? "compliance" = some (compliance report.compliance selection.families) := by
  obtain ⟨actions, -, made⟩ := bind_eq_ok.mp made
  obtain rfl := Except.ok.inj made
  simp only [List.contains_iff_mem, if_pos complianceShown]
  by_cases unusedShown : Section.unused ∈ selection.sections
  · simp [unusedShown, unusedMembers, Json.Value.member?, KeyedList.get?]
  · simp [unusedShown, Json.Value.member?, KeyedList.get?]

theorem compliance_family (report : ComplianceReport) {families : List Family} {family : Family}
    (shown : family ∈ families) :
    (compliance report families).member? family.name = some (issueList (report.issues.of family)) :=
  get?_foldl_put (fun family => issueList (report.issues.of family)) shown _

end DataReport

/-- Every surface of a report shows as many critical issues as the compliance part counts. -/
structure AuditReport.Agrees (report : AuditReport) (selection : Selection) : Prop where
  /-- The sentences about issues state their numbers. -/
  actions : ∀ items, actionItems report selection = .ok items →
    ∃ unused fixes, unusedActions report = .ok unused ∧ items = unused ++ fixes ∧
      (fixes.map statedCount).sum = report.compliance.criticalCount
  /-- The text marks the lines of issues, and says so if nothing calls for action. -/
  marks : ∀ text, TextReport.text report selection = .ok text →
    ∃ head unused items, TextReport.headLines report = .ok head ∧
      TextReport.unusedSection report = .ok unused ∧ actionItems report selection = .ok items ∧
      text = String.intercalate "\n" (head ++ unused ++
        TextReport.complianceSection report.compliance selection.families ++
        "" :: TextReport.actionLines items ++ TextReport.skippedLines report.skippedFiles) ∧
      (TextReport.complianceSection report.compliance selection.families).countP
        TextReport.marksCritical = report.compliance.criticalCount ∧
      (TextReport.clearLine ∈ TextReport.actionLines items ↔
        report.compliance.criticalCount = 0 ∧ report.usage.unused = [])
  /-- The data lists the issues of every family with their severities. -/
  severities : ∀ text, DataReport.text report selection = .ok text →
    ∃ (value compliance : Json.Value) (lists : Family → List Json.Value),
      text = value.indented ∧
      value.member? "compliance" = some compliance ∧
      (∀ family, compliance.member? family.name = some (.array (lists family))) ∧
      (Family.all.map fun family => (lists family).countP DataReport.isCriticalItem).sum =
        report.compliance.criticalCount

section Agreement

variable {report : AuditReport} {issues : IssuesByFamily} {assetCount : Int}
  {selection : Selection} (built : report.compliance = .ofIssues issues assetCount)
  (grouped : issues.IsGrouped) (unusedShown : .unused ∈ selection.sections)
  (complianceShown : .compliance ∈ selection.sections)
  (families : selection.families.Perm Family.all)

include built grouped unusedShown complianceShown families

theorem agrees : report.Agrees selection := by
  have same : report.compliance.issues = issues := by rw [built, ComplianceReport.ofIssues]
  have count : report.compliance.criticalCount = issues.all.countP (·.isCritical) := by
    rw [built, ComplianceReport.ofIssues]
  have every : ∀ family, family ∈ selection.families := by
    intro family
    rw [families.mem_iff]
    cases family <;> decide
  have acted : ∀ items, actionItems report selection = .ok items →
      ∃ unused, unusedActions report = .ok unused ∧
        items = unused ++ complianceActions issues selection.families := by
    intro items made
    obtain ⟨unused, given, rfl⟩ := actionItems_eq_ok.mp made
    rw [if_pos unusedShown] at given
    exact ⟨unused, given, by rw [if_pos complianceShown, same]⟩
  refine ⟨fun items made => ?_, fun text made => ?_, fun text made => ?_⟩
  · obtain ⟨unused, given, rfl⟩ := acted items made
    exact ⟨unused, _, given, rfl, by rw [sum_statedCount every grouped, count]⟩
  · obtain ⟨head, unused, items, headed, listed, itemsMade, rfl⟩ :=
      TextReport.text_lines unusedShown complianceShown made
    refine ⟨head, unused, items, headed, listed, itemsMade, rfl, ?_, ?_⟩
    · rw [TextReport.marks_complianceSection, same, count, ← issues.sum_criticalCount]
      exact (families.map _).sum_nat
    · obtain ⟨actions, given, rfl⟩ := acted items itemsMade
      rw [TextReport.clearLine_mem_actionLines, List.append_eq_nil_iff,
        complianceActions_eq_nil every grouped, count, and_comm, ← unusedActions_eq_nil, given,
        Except.ok.injEq]
  · obtain ⟨value, given, made⟩ := bind_eq_ok.mp made
    obtain rfl := Except.ok.inj made
    refine ⟨value, _, fun family => (issues.of family).map Issue.toValue, rfl,
      DataReport.value_compliance complianceShown given, fun family => ?_, ?_⟩
    · rw [DataReport.compliance_family _ (every family), same]
      rfl
    · rw [count, ← issues.sum_criticalCount]
      simp only [List.countP_map, Function.comp_def, DataReport.isCriticalItem_toValue]
      rfl

end Agreement

/-- The actions, the text and the data of a report agree on what is critical, smaller selections show
a part of all actions, and nothing but an image of astronomic size keeps a report from being
written. -/
theorem surfaces_agree (report : AuditReport) :
    (∀ issues assetCount selection, report.compliance = .ofIssues issues assetCount →
      issues.IsGrouped → .unused ∈ selection.sections → .compliance ∈ selection.sections →
        selection.families.Perm Family.all → report.Agrees selection) ∧
    (∀ full, actionItems report .everything = .ok full → ∀ selection,
      ∃ items, actionItems report selection = .ok items ∧ items.Sublist full) ∧
    (report.IsShowable → ∀ selection,
      (∃ items, actionItems report selection = .ok items) ∧
      (∃ text, TextReport.text report selection = .ok text) ∧
      ∃ text, DataReport.text report selection = .ok text) := by
  refine ⟨fun issues assetCount selection built grouped unusedShown complianceShown families => ?_,
    fun full all selection => actionItems_sublist all selection, fun showable selection => ?_⟩
  · exact agrees built grouped unusedShown complianceShown families
  · exact ⟨actionItems_succeeds showable selection, textReport_succeeds showable selection,
      dataReport_succeeds showable selection⟩

section Mixed

def mixedImage : Asset :=
  ⟨"photo", "photo.png", 1, .png, "png", some 1, none, some true, none, none⟩

/-- Three critical issues and two warnings. -/
def mixedIssues : IssuesByFamily where
  interlacing := [⟨mixedImage, "", .interlacing "critical"⟩, ⟨mixedImage, "", .interlacing "high"⟩]
  colorProfile := [⟨mixedImage, "", .colorProfile .missing none none⟩]
  catalog := [⟨mixedImage, "", .catalog .orphanedScale ["@2x"]⟩]
  designQuality := [⟨mixedImage, "", .designQuality .tooSmall ""⟩]

def mixedReport : AuditReport :=
  ⟨"App", [mixedImage], ⟨[], [], [], []⟩, .ofIssues mixedIssues 1, []⟩

theorem mixedIssues_isGrouped : mixedIssues.IsGrouped := by
  intro family
  cases family <;> decide

/-- The families may come in any order. -/
theorem mixedReport_agrees :
    mixedIssues.IsGrouped ∧
      mixedReport.Agrees
        ⟨[.compliance, .unused], [.catalog, .designQuality, .interlacing, .colorProfile]⟩ ∧
      ∃ fixes, actionItems mixedReport .everything = .ok fixes ∧
        (fixes.map statedCount).sum = 3 := by
  have agreement := (surfaces_agree mixedReport).1 mixedIssues 1
  refine ⟨mixedIssues_isGrouped, agreement _ rfl mixedIssues_isGrouped (by decide) (by decide)
    (by decide), ?_⟩
  obtain ⟨unused, fixes, none, made, sum⟩ :=
    (agreement .everything rfl mixedIssues_isGrouped (by decide) (by decide)
      (List.Perm.refl _)).actions _ rfl
  have silent : unusedActions mixedReport = .ok [] := unusedActions_eq_nil.mpr rfl
  rw [silent] at none
  obtain rfl := Except.ok.inj none
  exact ⟨fixes, congrArg Except.ok made, sum⟩

end Mixed

end AssetAudit
