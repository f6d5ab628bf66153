import AssetAudit.CommandLine.Run
import AssetAudit.Proofs.Config.Loading
import AssetAudit.Proofs.Environment.Loading

namespace AssetAudit.CommandLine

/-! The start of a run: it takes in the settings of the project, then makes its configuration.
Either it has a configuration with positive numbers, or its user is told what is wrong with it,
unless the surroundings are broken. -/

variable {workspace : Workspace} {environment : Environment} {settingsFile : Option String}
  {options : ReportOptions} {config : Config}

/-- What a run does before it looks at the project. -/
def startUp (workspace : Workspace) (environment : Environment) (settingsFile : Option String)
    (options : ReportOptions) : Except RunFailure Config :=
  match (environment.load workspace settingsFile).outcome with
  | .error failure => .error (.environment failure)
  | .ok _ => configOf workspace (environment.load workspace settingsFile).environment options

/-- What a run with a report has written on the error stream once it has started. -/
def startNotices (workspace : Workspace) (environment : Environment)
    (settingsFile : Option String) (options : ReportOptions) : List Notice :=
  match (environment.load workspace settingsFile).outcome with
  | .error _ => []
  | .ok path? =>
      (shownLines options.verbose (environment.load workspace settingsFile).log).map .log ++
        (path?.map fun path => Notice.line (loadedLine path)).toList

/-- A run with a report audits the project with the configuration of its start. -/
theorem run_report (command : ReportCommand) (root : String) :
    (Invocation.run workspace environment ⟨settingsFile, .report command root options⟩).result =
      match startUp workspace environment settingsFile options with
      | .error (.config (.rejected error)) =>
          .ok ((Response.failure [errorLine error.message]).after
            (startNotices workspace environment settingsFile options))
      | .error failure => .error failure
      | .ok config =>
          (auditWith workspace command root options config).map
            (.after (startNotices workspace environment settingsFile options)) := by
  unfold Invocation.run startUp startNotices
  cases loaded : (environment.load workspace settingsFile).outcome with
  | error failure => simp only [loaded]
  | ok path? =>
      simp only [loaded, Request.answer, runReport, Request.isVerbose]
      cases configOf workspace (environment.load workspace settingsFile).environment options with
      | ok config => rfl
      | error failure =>
          cases failure with
          | config failure => cases failure <;> rfl
          | _ => rfl

/-- The path of the configuration file: the one on the command line, or else the one in the
environment.  An empty path counts as none. -/
def configPath? (workspace : Workspace) (environment : Environment)
    (settingsFile : Option String) (options : ReportOptions) : Option String :=
  (options.config.filter fun path => !path.isEmpty).or
    ((environment.effective? (SettingsFile.taken? workspace settingsFile)
      Environment.configVariable).filter fun path => !path.isEmpty)

section Loaded

variable {used? : Option String}
  (loaded : (environment.load workspace settingsFile).outcome = .ok used?)

include loaded

theorem setting?_load {name : String} (own : Environment.isOwn name = true) :
    (environment.load workspace settingsFile).environment.setting? name =
      (environment.effective? (SettingsFile.taken? workspace settingsFile) name).filter
        fun value => !value.isEmpty := by
  rw [Environment.setting?, Environment.get?_load own loaded]

theorem filePath?_load :
    Config.filePath? (environment.load workspace settingsFile).environment options.config =
      configPath? workspace environment settingsFile options := by
  rw [Config.filePath?, setting?_load loaded (by decide), configPath?]
  cases options.config.filter fun path => !path.isEmpty <;> rfl

theorem startUp_of_loaded :
    startUp workspace environment settingsFile options =
      configOf workspace (environment.load workspace settingsFile).environment options := by
  rw [startUp, loaded]

end Loaded

theorem loaded_of_intact (intact : ¬ environment.IsBroken workspace settingsFile) :
    ∃ used?, (environment.load workspace settingsFile).outcome = .ok used? := by
  cases loaded : (environment.load workspace settingsFile).outcome with
  | ok used? => exact ⟨used?, rfl⟩
  | error failure => exact absurd (Environment.load_fails_iff.mp ⟨failure, loaded⟩) intact

theorem configOf_eq_ok :
    configOf workspace environment options = .ok config ↔
      ∃ base, Config.load workspace environment options.config = .ok base ∧
        withStatedWorkers base options.workers = .ok config := by
  rw [configOf, bind_eq_ok]
  simp only [mapError_eq_ok]

theorem configOf_of_load (loaded : Config.load workspace environment options.config = .ok config) :
    configOf workspace environment options = withStatedWorkers config options.workers := by
  rw [configOf, loaded]
  rfl

theorem configOf_of_load_error {failure : ConfigFailure}
    (failed : Config.load workspace environment options.config = .error failure) :
    configOf workspace environment options = .error (.config failure) := by
  rw [configOf, failed]
  rfl

/-- What ends a start without a word about the configuration. -/
inductive IsBroken (workspace : Workspace) (environment : Environment)
    (settingsFile : Option String) (options : ReportOptions) : Prop
  | settings (broken : environment.IsBroken workspace settingsFile)
  | config {path : String} (intact : ¬ environment.IsBroken workspace settingsFile)
      (used : configPath? workspace environment settingsFile options = some path)
      (unreadable : Config.IsUnreadable workspace path)
  /-- The number of workers was dropped, and all else is well. -/
  | workers (dropped : options.workers = .dropped)
      (started : ∃ config,
        startUp workspace environment settingsFile { options with workers := .unstated } =
          .ok config)

/-- A start that yields a configuration with positive numbers, or an error that is told. -/
def IsOrderly : Except RunFailure Config → Prop
  | .ok config => 1 ≤ config.workers ∧ 1 ≤ config.maxExpansionDepth
  | .error (.config (.rejected _)) => True
  | .error _ => False

theorem isOrderly_withStatedWorkers (positive : config.IsPositive) {stated : StatedNumber}
    (kept : stated ≠ .dropped) : IsOrderly (withStatedWorkers config stated) := by
  cases stated with
  | dropped => exact absurd rfl kept
  | unstated => exact ⟨positive .workers, positive .maxExpansionDepth⟩
  | number workers =>
      rw [withStatedWorkers, Config.withWorkers]
      split
      · rename_i atLeastOne
        have count : 1 ≤ workers.toNat := by omega
        exact ⟨count, positive .maxExpansionDepth⟩
      · trivial

theorem not_isOrderly_config {failure : ConfigFailure}
    (other : ∀ error, failure ≠ .rejected error) :
    ¬ IsOrderly (.error (.config failure)) := by
  cases failure with
  | rejected error => exact absurd rfl (other error)
  | _ => exact id

theorem IsBroken.not_isOrderly (broken : IsBroken workspace environment settingsFile options) :
    ¬ IsOrderly (startUp workspace environment settingsFile options) := by
  cases broken with
  | settings broken =>
      obtain ⟨failure, failed⟩ := Environment.load_fails_iff.mpr broken
      rw [startUp, failed]
      exact id
  | config intact used unreadable =>
      obtain ⟨used?, loaded⟩ := loaded_of_intact intact
      obtain ⟨failure, failed, other⟩ :=
        Config.load_of_isUnreadable ((filePath?_load loaded).trans used) unreadable
      rw [startUp_of_loaded loaded, configOf_of_load_error failed]
      exact not_isOrderly_config other
  | workers dropped started =>
      obtain ⟨config, started⟩ := started
      unfold startUp at started ⊢
      cases loaded : (environment.load workspace settingsFile).outcome with
      | error failure => exact id
      | ok used? =>
          rw [loaded] at started
          obtain ⟨base, read, -⟩ := configOf_eq_ok.mp started
          have same : configOf workspace (environment.load workspace settingsFile).environment
              options = withStatedWorkers base options.workers := configOf_of_load read
          simp only [same, dropped]
          exact id

/-- A start is orderly unless something is broken: a settings file that is no text or would give a
variable a null character, a configuration file that is no text or has an integer with too many
digits, paths that cannot be used, or a number of workers that was dropped.  The configuration file
is taken to be nested within the recursion limit, as `Json.ReadError` says. -/
theorem startUp_isOrderly_iff :
    IsOrderly (startUp workspace environment settingsFile options) ↔
      ¬ IsBroken workspace environment settingsFile options := by
  constructor
  · exact fun orderly broken => broken.not_isOrderly orderly
  · intro whole
    obtain ⟨used?, loaded⟩ := loaded_of_intact fun broken => whole (.settings broken)
    rw [startUp_of_loaded loaded]
    cases read : Config.load workspace (environment.load workspace settingsFile).environment
        options.config with
    | error failure =>
        rw [configOf_of_load_error read]
        rcases Config.load_eq_error read with ⟨error, rfl⟩ | ⟨path, named, unreadable⟩
        · trivial
        · exact absurd (.config (fun broken => whole (.settings broken))
            ((filePath?_load loaded).symm.trans named) unreadable) whole
    | ok config =>
        -- the workers are compared last, when all else is well
        rw [configOf_of_load read]
        refine isOrderly_withStatedWorkers (Config.load_isPositive read) fun dropped => whole ?_
        refine .workers dropped ⟨config, ?_⟩
        rw [startUp_of_loaded loaded]
        exact configOf_eq_ok.mpr ⟨config, read, rfl⟩

/-- The one byte of this configuration file starts no character. -/
example : startUp ⟨⟨[(["c.json"], .file [0xff])]⟩, []⟩ [] none { config := some "c.json" } =
    .error (.config (.undecodable ⟨0, [0xff], .invalidStart⟩)) := rfl

end AssetAudit.CommandLine
