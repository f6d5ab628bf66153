import AssetAudit.Audit
import AssetAudit.Proofs.Outcome

namespace AssetAudit

/-! An audit walks the directories, calls in its workers, reads the files and runs the rules.  It
returns a report if none of these steps fails, and else it fails for the first one. -/

variable {workspace : Workspace} {root : String} {config : Config}

theorem Survey.readWithWorkers_of_workers (staffed : 1 ≤ config.workers) :
    readWithWorkers workspace root config =
      (read workspace root config.fallbackExtensions).mapError .survey := by
  unfold readWithWorkers
  cases read workspace root config.fallbackExtensions with
  | ok survey => exact if_pos staffed
  | error failure =>
      cases failure with
      | scan reason => rfl
      | inventory reason => exact if_pos staffed

/-- Without workers nothing is read.  A project that cannot be walked is reported first. -/
theorem Survey.readWithWorkers_of_no_workers (workspace : Workspace) (root : String)
    (unstaffed : ¬ 1 ≤ config.workers) :
    readWithWorkers workspace root config = .error .noWorkers ∨
      ∃ failure, read workspace root config.fallbackExtensions = .error (.scan failure) ∧
        readWithWorkers workspace root config = .error (.survey (.scan failure)) := by
  unfold readWithWorkers
  cases read workspace root config.fallbackExtensions with
  | ok survey => exact Or.inl (if_neg unstaffed)
  | error failure =>
      cases failure with
      | scan reason => exact Or.inr ⟨reason, rfl, rfl⟩
      | inventory reason => exact Or.inl (if_neg unstaffed)

theorem Survey.readWithWorkers_eq_ok {survey : Survey} :
    readWithWorkers workspace root config = .ok survey ↔
      1 ≤ config.workers ∧ read workspace root config.fallbackExtensions = .ok survey := by
  by_cases staffed : 1 ≤ config.workers
  · rw [readWithWorkers_of_workers staffed, mapError_eq_ok, and_iff_right staffed]
  · rcases readWithWorkers_of_no_workers workspace root staffed with failed | ⟨_, -, failed⟩
    · simp [failed, staffed]
    · simp [failed, staffed]

theorem audit_eq_ok {rules : List Rule} {report : AuditReport} :
    audit workspace root config rules = .ok report ↔
      1 ≤ config.workers ∧ ∃ survey compliance,
        Survey.read workspace root config.fallbackExtensions = .ok survey ∧
        runCompliance rules survey.assets = .ok compliance ∧
        report = ⟨survey.tree.root, survey.assets, survey.usage survey.extraction config,
          compliance, survey.skipped⟩ := by
  unfold audit Survey.report
  simp only [bind_eq_ok, mapError_eq_ok, Survey.readWithWorkers_eq_ok, pure, Except.pure,
    Except.ok.injEq]
  constructor
  · rintro ⟨survey, ⟨staffed, surveyed⟩, compliance, checked, rfl⟩
    exact ⟨staffed, survey, compliance, surveyed, checked, rfl⟩
  · rintro ⟨staffed, survey, compliance, surveyed, checked, rfl⟩
    exact ⟨survey, ⟨staffed, surveyed⟩, compliance, checked, rfl⟩

theorem audit_eq_error {rules : List Rule} {failure : AuditFailure} :
    audit workspace root config rules = .error failure ↔
      Survey.readWithWorkers workspace root config = .error failure ∨
        ∃ survey, Survey.readWithWorkers workspace root config = .ok survey ∧
          ∃ reason, runCompliance rules survey.assets = .error reason ∧
            .rule reason = failure := by
  unfold audit Survey.report
  simp only [bind_eq_error, mapError_eq_error, pure, Except.pure, reduceCtorEq, and_false,
    exists_false, or_false]

end AssetAudit
