import AssetAudit.Proofs.CommandLine.StartUp
import AssetAudit.Proofs.Files.Joining
import AssetAudit.Proofs.Json.Members

namespace AssetAudit.CommandLine

/-! Which source decides: the command line, then the environment, then the settings file of the
project, then the configuration file, and at last the defaults. -/

variable {workspace : Workspace} {environment : Environment} {settingsFile : Option String}
  {options : ReportOptions} {config base : Config} {members : List (String × Json.Value)}

/-- The members of the configuration file; without a file there are none. -/
def FileHas (workspace : Workspace) (path? : Option String)
    (members : List (String × Json.Value)) : Prop :=
  match path? with
  | none => members = []
  | some path => ∃ text, workspace.readText path = .ok text ∧
      Json.read text = .ok (.object members)

/-- The number of workers is the stated one, or else the one that the variable writes, or else the
one in the file or the default.  An empty variable counts as none. -/
def WorkersComeFrom (config : Config) (stated : StatedNumber) (setting? : Option String)
    (members : List (String × Json.Value)) : Prop :=
  match stated, setting?.filter fun text => !text.isEmpty with
  | .number number, _ => (config.workers : Int) = number
  | .dropped, _ => False
  | .unstated, some text => Text.integer? text.toList = some (config.workers : Int)
  | .unstated, none => config.Takes {} .workers (KeyedList.get? members ConfigField.workers.key)

theorem ofFile_takes {path? : Option String} (made : Config.ofFile workspace path? = .ok base) :
    ∃ members, FileHas workspace path? members ∧
      ∀ field, base.Takes {} field (KeyedList.get? members field.key) := by
  cases path? with
  | none =>
      obtain rfl := Except.ok.inj made
      exact ⟨[], rfl, fun field => rfl⟩
  | some path =>
      obtain ⟨text, value, read, decoded, parsed⟩ := Config.readFile_eq_ok.mp made
      obtain ⟨members, rfl, takes⟩ := Config.parse_takes parsed
      exact ⟨members, ⟨text, read, decoded⟩, takes (Json.read_distinct decoded)⟩

/-- A configuration as its sources make it, when its file has these members. -/
structure FollowsPrecedence (workspace : Workspace) (environment : Environment)
    (settingsFile : Option String) (options : ReportOptions)
    (members : List (String × Json.Value)) (config : Config) : Prop where
  file : FileHas workspace (configPath? workspace environment settingsFile options) members
  workers : WorkersComeFrom config options.workers
    (environment.effective? (SettingsFile.taken? workspace settingsFile)
      Environment.workersVariable) members
  others : ∀ field, field ≠ .workers →
    config.Takes {} field (KeyedList.get? members field.key)
  /-- A relative path in the settings leads on from their directory. -/
  relative : ∀ directory settings value,
    SettingsFile.taken? workspace settingsFile = some (directory, settings) →
    KeyedList.get? environment Environment.configVariable = none →
    KeyedList.get? settings Environment.configVariable = some value →
    value ≠ "" → isAbsolutePath value = false →
    (∀ name ∈ workspace.directory, IsProperName name) →
      ∃ path, environment.effective? (SettingsFile.taken? workspace settingsFile)
          Environment.configVariable = some path ∧
        workspace.place? path = some (Location.ofPath directory value)

/-- A path in the settings leads from their directory to the file it names. -/
theorem place?_effective {directory : Location} {settings : List (String × String)}
    {value : String} (proper : ∀ name ∈ workspace.directory, IsProperName name)
    (taken : SettingsFile.taken? workspace settingsFile = some (directory, settings))
    (unset : KeyedList.get? environment Environment.configVariable = none)
    (stated : KeyedList.get? settings Environment.configVariable = some value)
    (nonempty : value ≠ "") (relative : isAbsolutePath value = false) :
    ∃ path, environment.effective? (SettingsFile.taken? workspace settingsFile)
        Environment.configVariable = some path ∧
      workspace.place? path = some (Location.ofPath directory value) := by
  obtain ⟨path, text, place, -, -, placed, rfl, -⟩ := SettingsFile.taken?_eq_some.mp taken
  have above : ∀ name ∈ place.dropLast, IsProperName name := fun name member =>
    place?_isProper proper placed name (List.mem_of_mem_dropLast member)
  obtain ⟨absolute, leads⟩ := CleanPath.ofPath_join above relative
  refine ⟨((CleanPath.ofText (Location.text place.dropLast)).join (.ofText value)).text, ?_, ?_⟩
  · rw [Environment.effective?, unset, Option.none_or, taken, Option.bind_some]
    simp only [stated, Option.map_some]
    rw [Environment.valueOf, if_pos ⟨rfl, nonempty, by simp [relative]⟩]
  · rw [Workspace.place?, if_pos absolute, leads]

theorem workersComeFrom_withVariable {setting? : Option String}
    (takes : base.Takes {} .workers (KeyedList.get? members ConfigField.workers.key))
    (set : environment.setting? Environment.workersVariable =
      setting?.filter fun text => !text.isEmpty)
    (made : base.withVariable environment = .ok config) :
    WorkersComeFrom config .unstated setting? members := by
  unfold WorkersComeFrom
  rcases Config.withVariable_eq_ok.mp made with ⟨unset, rfl⟩ | ⟨text, workers, stated, read, rfl⟩
  · rw [← set, unset]
    exact takes
  · rw [← set, stated]
    exact (Config.workersOf?_eq_some.mp read).1

theorem withStatedWorkers_eq_ok {stated : StatedNumber} :
    withStatedWorkers base stated = .ok config ↔
      stated = .unstated ∧ config = base ∨
        ∃ workers : Nat, stated = .number workers ∧ 1 ≤ workers ∧
          config = { base with workers } := by
  cases stated with
  | unstated => simp [withStatedWorkers, eq_comm]
  | dropped => simp [withStatedWorkers]
  | number number =>
      rw [withStatedWorkers, mapError_eq_ok, Config.withWorkers]
      split
      · rename_i positive
        constructor
        · intro made
          obtain rfl := Except.ok.inj made
          exact Or.inr ⟨number.toNat, by rw [Int.toNat_of_nonneg (by omega)], by omega, rfl⟩
        · rintro (⟨unstated, -⟩ | ⟨workers, same, -, rfl⟩)
          · cases unstated
          · obtain rfl := StatedNumber.number.inj same
            rw [Int.toNat_natCast]
      · rename_i notPositive
        refine iff_of_false (fun made => by cases made) ?_
        rintro (⟨unstated, -⟩ | ⟨workers, same, positive, -⟩)
        · cases unstated
        · obtain rfl := StatedNumber.number.inj same
          omega

/-- The configuration with which a run starts, source by source. -/
theorem startUp_precedence
    (started : startUp workspace environment settingsFile options = .ok config) :
    ∃ members, FollowsPrecedence workspace environment settingsFile options members config := by
  unfold startUp at started
  split at started
  · cases started
  · rename_i used? loaded
    obtain ⟨varied, read, stated⟩ := configOf_eq_ok.mp started
    rw [Config.load_eq_bind, filePath?_load loaded] at read
    obtain ⟨base, made, withVariable⟩ := bind_eq_ok.mp read
    obtain ⟨members, has, takes⟩ := ofFile_takes made
    have own : Environment.isOwn Environment.workersVariable = true := by decide
    have set := setting?_load loaded own
    have variableGives := workersComeFrom_withVariable (takes .workers) set withVariable
    -- the variable and the command line change the number of workers and no other field
    have variedTakes : ∀ field, field ≠ .workers →
        varied.Takes {} field (KeyedList.get? members field.key) := by
      intro field other
      rcases Config.withVariable_eq_ok.mp withVariable with ⟨-, rfl⟩ | ⟨_, workers, -, -, rfl⟩
      · exact takes field
      · exact (takes field).congr (Config.content_withCount base workers other)
    refine ⟨members, has, ?_, fun field other => ?_,
      fun directory settings value taken unset stated nonempty relative proper =>
        place?_effective proper taken unset stated nonempty relative⟩
    · rcases withStatedWorkers_eq_ok.mp stated with ⟨unstated, rfl⟩ | ⟨workers, number, -, rfl⟩
      · rw [unstated]
        exact variableGives
      · rw [number]
        exact rfl
    · rcases withStatedWorkers_eq_ok.mp stated with ⟨-, rfl⟩ | ⟨workers, -, -, rfl⟩
      · exact variedTakes field other
      · exact (variedTakes field other).congr (Config.content_withCount varied workers other)

/-- A project whose settings name a configuration and a number of workers. -/
def layeredShop : Workspace :=
  ⟨⟨[(["shop"], .directory),
      (["shop", ".env"], .file
        "ASSET_TOOL_CONFIG=conf/audit.json\nASSET_TOOL_WORKERS=3\n".toUTF8.data.toList),
      (["shop", "conf"], .directory),
      (["shop", "conf", "audit.json"], .file
        "\x7b\"workers\": 5, \"hd_suffixes\": [\"@2x\"]\x7d".toUTF8.data.toList)]⟩, ["shop"]⟩

/-- The empty variable hides the number in the settings, and so the one in the file counts. -/
theorem layeredShop_precedence :
    startUp layeredShop [("ASSET_TOOL_WORKERS", "")] none {} =
        .ok { hdSuffixes := ["@2x"], workers := 5 } ∧
      ∃ members, FollowsPrecedence layeredShop [("ASSET_TOOL_WORKERS", "")] none {} members
        { hdSuffixes := ["@2x"], workers := 5 } := by
  have started : startUp layeredShop [("ASSET_TOOL_WORKERS", "")] none {} =
      .ok { hdSuffixes := ["@2x"], workers := 5 } := toOption_eq_some.mp (by decide +kernel)
  exact ⟨started, startUp_precedence started⟩

end AssetAudit.CommandLine
