import AssetAudit.Proofs.CommandLine.StartUp
import AssetAudit.Proofs.Compliance.Standard
import AssetAudit.Proofs.Project.AssetSource
import AssetAudit.Proofs.Report.Size
import AssetAudit.Proofs.Usage.Growth

namespace AssetAudit

/-! The status with which a run ends follows from the whole report and the gates.  The command and
the form of its output decide about the output only. -/

/-- The sizes in the report of an audit can be shown if all images together are small enough. -/
theorem audit_isShowable {workspace : Workspace} {root : String} {config : Config}
    {rules : List Rule} {report : AuditReport}
    (audited : audit workspace root config rules = .ok report)
    (small : report.totalSize < sizeLimit) : report.IsShowable := by
  obtain ⟨-, survey, compliance, surveyed, -, rfl⟩ := audit_eq_ok.mp audited
  obtain ⟨-, read, -⟩ := Survey.read_eq_ok.mp surveyed
  have nonneg : ∀ asset ∈ survey.assets, 0 ≤ asset.byteSize := by
    intro asset member
    obtain ⟨reading, rfl, ofFile⟩ := Inventory.assets_ofFile read member
    exact ofFile.byteSize_nonneg
  refine ⟨small, ?_, ?_⟩
  · have fewer : totalByteSize (survey.usage survey.extraction config).unused ≤
        totalByteSize survey.assets := by
      rw [Survey.usage, Usage.unused_of]
      exact totalByteSize_filter_le nonneg _
    exact Int.lt_of_le_of_lt fewer small
  · intro asset unused
    have member : asset ∈ survey.assets := Usage.mem_of_unused unused
    exact Int.lt_of_le_of_lt (byteSize_le_total nonneg member) small

namespace CommandLine

variable {workspace : Workspace} {environment : Environment} {settingsFile : Option String}
  {options : ReportOptions} {config : Config} {root : String} {report : AuditReport}

/-- An audit answers every report command alike. -/
theorem auditWith_of_audit (audited : audit workspace root config Rule.standard = .ok report) :
    ∃ log, ∀ command options, auditWith workspace command root options config =
      respond report command options (shownLines options.verbose log) := by
  obtain ⟨staffed, survey, compliance, surveyed, checked, rfl⟩ := audit_eq_ok.mp audited
  refine ⟨survey.logLines config Rule.standard, fun command options => ?_⟩
  have reported : survey.report config Rule.standard =
      .ok ⟨survey.tree.root, survey.assets, survey.usage survey.extraction config, compliance,
        survey.skipped⟩ := bind_eq_ok.mpr ⟨compliance, checked, rfl⟩
  rw [auditWith, Survey.readWithWorkers_eq_ok.mpr ⟨staffed, surveyed⟩]
  simp only [reported]

theorem reportText_succeeds (showable : report.IsShowable) (command : ReportCommand)
    (options : ReportOptions) : ∃ text, reportText report command options = .ok text := by
  unfold reportText
  split
  · exact dataReport_succeeds showable command.selection
  · exact textReport_succeeds showable command.selection

/-- A gate that was asked for does not let the report pass. -/
def FailsGate (report : AuditReport) (options : ReportOptions) : Prop :=
  (∃ least, options.leastScore = .number least ∧ report.compliance.score < least) ∨
    options.failsOnUnused = true ∧ report.usage.unused ≠ []

/-- What the gates say of a report, and the status that follows. -/
structure IsVerdict (report : AuditReport) (options : ReportOptions) (complaints : List String)
    (status : Nat) : Prop where
  fails : status = 1 ↔ FailsGate report options
  passes : status = 0 ↔ ¬ FailsGate report options
  silent : complaints = [] ↔ ¬ FailsGate report options
  /-- Each gate speaks for itself, whatever the other one says. -/
  score : ∀ least, options.leastScore = .number least → report.compliance.score < least →
    "FAIL: compliance score " ++ Text.decimal report.compliance.score ++ " is below " ++
      Text.decimal least ∈ complaints
  unused : options.failsOnUnused = true → report.usage.unused ≠ [] →
    "FAIL: " ++ Text.decimal report.usage.unused.length ++ " unused image(s)" ∈ complaints

theorem scoreGate_verdict (score : Int) {stated : StatedNumber} (number : stated ≠ .dropped) :
    ∃ complaints, scoreGate score stated = .ok complaints ∧
      (complaints ≠ [] ↔ ∃ least, stated = .number least ∧ score < least) ∧
      ∀ least, stated = .number least → score < least →
        "FAIL: compliance score " ++ Text.decimal score ++ " is below " ++ Text.decimal least ∈
          complaints := by
  cases stated with
  | unstated => exact ⟨[], rfl, by simp, fun least same => by cases same⟩
  | dropped => exact absurd rfl number
  | number least =>
      rw [scoreGate]
      split
      · rename_i below
        refine ⟨_, rfl, by simp [below], fun other same _ => ?_⟩
        obtain rfl := StatedNumber.number.inj same
        simp
      · rename_i notBelow
        refine ⟨_, rfl, by simp [notBelow], fun other same below => ?_⟩
        exact absurd (StatedNumber.number.inj same ▸ below) notBelow

theorem unusedGate_ne_nil {unused : List Asset} {isOn : Bool} :
    unusedGate unused isOn ≠ [] ↔ isOn = true ∧ unused ≠ [] := by
  unfold unusedGate
  split <;> simp_all

theorem unusedGate_complains {unused : List Asset} (some : unused ≠ []) :
    "FAIL: " ++ Text.decimal unused.length ++ " unused image(s)" ∈ unusedGate unused true := by
  rw [unusedGate, if_pos (by simpa using some)]
  simp

theorem gates_verdict (report : AuditReport) (stated : options.leastScore ≠ .dropped) :
    ∃ complaints, gates report options = .ok complaints ∧
      IsVerdict report options complaints (if complaints.isEmpty then 0 else 1) := by
  obtain ⟨low, scored, lowIff, lowComplaint⟩ := scoreGate_verdict report.compliance.score stated
  let idle := unusedGate report.usage.unused options.failsOnUnused
  have complains : low ++ idle ≠ [] ↔ FailsGate report options := by
    rw [FailsGate, ← lowIff, ← unusedGate_ne_nil, Ne, List.append_eq_nil_iff, not_and_or]
  -- both gates are asked, and what they say together gives the status
  refine ⟨low ++ idle, bind_eq_ok.mpr ⟨low, scored, rfl⟩, ?_, ?_, ?_, ?_, ?_⟩
  · rw [← complains]
    split <;> simp_all
  · rw [← complains]
    split <;> simp_all
  · rw [← complains, not_not]
  · exact fun least same below => List.mem_append_left _ (lowComplaint least same below)
  · intro isOn some
    have complaint := unusedGate_complains some
    rw [← isOn] at complaint
    exact List.mem_append_right _ complaint

/-- A report command writes its report, then what the gates say, and ends as they say. -/
theorem run_responds {complaints : List String}
    (started : startUp workspace environment settingsFile options = .ok config)
    (audited : audit workspace root config Rule.standard = .ok report)
    (showable : report.IsShowable) (judged : gates report options = .ok complaints)
    (command : ReportCommand) :
    ∃ text notices, reportText report command options = .ok text ∧
      (Invocation.run workspace environment
        ⟨settingsFile, .report command root options⟩).result =
          .ok ⟨text ++ "\n", notices ++ complaints.map .line,
            if complaints.isEmpty then 0 else 1⟩ := by
  obtain ⟨log, answers⟩ := auditWith_of_audit audited
  obtain ⟨text, written⟩ := reportText_succeeds showable command options
  have responded : auditWith workspace command root options config =
      .ok ⟨text ++ "\n", (shownLines options.verbose log).map .log ++ complaints.map .line,
        if complaints.isEmpty then 0 else 1⟩ := by
    rw [answers]
    exact bind_eq_ok.mpr
      ⟨text, mapError_eq_ok.mpr written, bind_eq_ok.mpr ⟨complaints, judged, rfl⟩⟩
  refine ⟨text, startNotices workspace environment settingsFile options ++
    (shownLines options.verbose log).map .log, written, ?_⟩
  rw [run_report, started]
  simp only [responded]
  rw [List.append_assoc]
  rfl

/-- With the same project, configuration and gates every report command, in either form, writes its
whole report and ends with the same status, unless the images take up too much space to tell.  The
least score, if one is stated, must be a number. -/
theorem run_status (started : startUp workspace environment settingsFile options = .ok config)
    (audited : audit workspace root config Rule.standard = .ok report)
    (stated : options.leastScore ≠ .dropped) :
    ∃ complaints status, IsVerdict report options complaints status ∧
      ∀ command asData verbose,
        (∃ text notices, reportText report command { options with asData, verbose } = .ok text ∧
          (Invocation.run workspace environment
            ⟨settingsFile, .report command root { options with asData, verbose }⟩).result =
              .ok ⟨text ++ "\n", notices ++ complaints.map .line, status⟩) ∨
        sizeLimit ≤ report.totalSize := by
  obtain ⟨complaints, judged, verdict⟩ := gates_verdict report stated
  refine ⟨complaints, _, verdict, fun command asData verbose => ?_⟩
  by_cases small : report.totalSize < sizeLimit
  · -- neither the start nor the gates look at the form of the output
    have sameStart : startUp workspace environment settingsFile
        { options with asData, verbose } = .ok config := started
    have sameGates : gates report { options with asData, verbose } = .ok complaints := judged
    exact Or.inl (run_responds sameStart audited (audit_isShowable audited small) sameGates command)
  · exact Or.inr (Int.not_lt.mp small)

/-- A run that is to fail for an unused image and for a score below fifty. -/
def strictOptions : ReportOptions := { leastScore := .number 50, failsOnUnused := true }

/-- A project with an image that no source uses. -/
theorem kindAddition_report : ∃ report,
    audit kindAddition.applied "." {} Rule.standard = .ok report ∧
      report.usage.unused ≠ [] ∧ report.totalSize < sizeLimit := by
  have readable : ∀ asset ∈ [badgeImage], asset.IsReadable := by
    intro asset among width height known
    obtain rfl := List.mem_singleton.mp among
    cases known
  obtain ⟨compliance, checked⟩ := runCompliance_standard readable
  obtain ⟨problem?, surveyed⟩ := kindAddition_survey
  have small : totalByteSize [badgeImage] < sizeLimit := by decide +kernel
  refine ⟨_, audit_eq_ok.mpr
    ⟨by decide, _, compliance, surveyed, by rw [badgeAssets, checked], rfl⟩, ?_, ?_⟩
  · unfold Survey.usage
    rw [badgeAssets]
    exact List.ne_nil_of_mem (badgeImage_unused _)
  · rwa [AuditReport.totalSize, badgeAssets]

/-- The unused image makes every report fail. -/
theorem strict_status :
    startUp kindAddition.applied [] none strictOptions = .ok {} ∧
      strictOptions.leastScore ≠ .dropped ∧
      ∃ report, audit kindAddition.applied "." {} Rule.standard = .ok report ∧
        ∃ complaints ≠ [], ∀ command asData verbose, ∃ text notices,
          reportText report command { strictOptions with asData, verbose } = .ok text ∧
          (Invocation.run kindAddition.applied []
            ⟨none, .report command "." { strictOptions with asData, verbose }⟩).result =
              .ok ⟨text ++ "\n", notices ++ complaints.map .line, 1⟩ := by
  have started : startUp kindAddition.applied [] none strictOptions = .ok {} :=
    toOption_eq_some.mp (by decide +kernel)
  have stated : strictOptions.leastScore ≠ .dropped := by decide
  obtain ⟨report, audited, unused, small⟩ := kindAddition_report
  obtain ⟨complaints, status, verdict, runs⟩ := run_status started audited stated
  have failed : FailsGate report strictOptions := Or.inr ⟨rfl, unused⟩
  obtain rfl := verdict.fails.mpr failed
  refine ⟨started, stated, report, audited, complaints, ?_, fun command asData verbose => ?_⟩
  · exact fun silent => verdict.silent.mp silent failed
  · exact (runs command asData verbose).resolve_right (Int.not_le.mpr small)

end CommandLine

end AssetAudit
