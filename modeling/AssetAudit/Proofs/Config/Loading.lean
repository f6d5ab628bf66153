import AssetAudit.Config.Load
import AssetAudit.Proofs.Config.Fields

namespace AssetAudit.Config

/-! Loading a configuration: what a file must be to be read, and which faults the user is not told
of but that end the whole run. -/

variable {workspace : Workspace} {environment : Environment} {path : String}
  {path? : Option String} {base config : Config} {failure : ConfigFailure}

theorem readFile_eq_ok :
    base.readFile workspace path = .ok config ↔
      ∃ text value, workspace.readText path = .ok text ∧ Json.read text = .ok value ∧
        base.parse value = .ok config := by
  unfold readFile
  rw [bind_eq_ok]
  refine exists_congr fun text => ?_
  rw [mapError_eq_ok, bind_eq_ok, ← exists_and_left]
  simp only [mapError_eq_ok]

/-- What keeps a configuration file from being read, other than what its user is told. -/
inductive IsUnreadable (workspace : Workspace) (path : String) : Prop
  | embeddedNul (refused : workspace.readText path = .error (.access .embeddedNul))
  | undecodable {error : Text.Utf8.DecodeError}
      (refused : workspace.readText path = .error (.decoding error))
  | tooManyDigits {text : List Char} {count : Nat} (read : workspace.readText path = .ok text)
      (refused : Json.read text = .error (.tooManyDigits count))

theorem readFile_eq_error (failed : base.readFile workspace path = .error failure) :
    (∃ error, failure = .rejected error) ∨ IsUnreadable workspace path := by
  unfold readFile at failed
  rcases bind_eq_error.mp failed with unread | ⟨text, read, failed⟩
  · obtain ⟨cause, refused, rfl⟩ := mapError_eq_error.mp unread
    cases cause with
    | decoding error => exact Or.inr (.undecodable refused)
    | access cause =>
        cases cause with
        | embeddedNul => exact Or.inr (.embeddedNul refused)
        | _ => exact Or.inl ⟨_, rfl⟩
  · rcases bind_eq_error.mp failed with unparsed | ⟨value, parsed, failed⟩
    · obtain ⟨cause, refused, rfl⟩ := mapError_eq_error.mp unparsed
      cases cause with
      | malformed problem place => exact Or.inl ⟨_, rfl⟩
      | tooManyDigits count => exact Or.inr (.tooManyDigits (mapError_eq_ok.mp read) refused)
    · obtain ⟨fault, -, rfl⟩ := mapError_eq_error.mp failed
      exact Or.inl ⟨_, rfl⟩

theorem readFile_of_isUnreadable (base : Config) (unreadable : IsUnreadable workspace path) :
    ∃ failure, base.readFile workspace path = .error failure ∧
      ∀ error, failure ≠ .rejected error := by
  cases unreadable with
  | embeddedNul refused =>
      refine ⟨.embeddedNul, ?_, fun error same => by cases same⟩
      rw [readFile, refused]
      rfl
  | @undecodable error refused =>
      refine ⟨.undecodable error, ?_, fun error same => by cases same⟩
      rw [readFile, refused]
      rfl
  | @tooManyDigits text count read refused =>
      refine ⟨.tooManyDigits count, ?_, fun error same => by cases same⟩
      rw [readFile, read]
      exact bind_eq_error.mpr (Or.inr ⟨text, rfl, by rw [refused]; rfl⟩)

/-- The configuration before the environment has its say: the defaults with the file. -/
def ofFile (workspace : Workspace) : Option String → Except ConfigFailure Config
  | some path => ({} : Config).readFile workspace path
  | none => .ok {}

theorem load_eq_bind :
    load workspace environment path? =
      (ofFile workspace (filePath? environment path?)) >>= fun config =>
        config.withVariable environment := by
  unfold load
  cases filePath? environment path? <;> rfl

theorem ofFile_isPositive {filePath? : Option String}
    (made : ofFile workspace filePath? = .ok config) : config.IsPositive := by
  cases filePath? with
  | none => exact Except.ok.inj made ▸ isPositive_default
  | some path =>
      obtain ⟨text, value, -, -, parsed⟩ := readFile_eq_ok.mp made
      exact parse_isPositive isPositive_default parsed

/-- Another positive number of workers leaves the numbers of a configuration positive. -/
theorem IsPositive.withCount {workers : Nat} (positive : config.IsPositive)
    (count : 1 ≤ workers) : ({ config with workers } : Config).IsPositive := by
  intro field
  cases field with
  | workers => exact count
  | maxExpansionDepth => exact positive .maxExpansionDepth
  | _ => trivial

theorem workersOf?_eq_some {text : String} {workers : Nat} :
    workersOf? text = some workers ↔
      Text.integer? text.toList = some (workers : Int) ∧ 1 ≤ workers := by
  unfold workersOf?
  cases Text.integer? text.toList with
  | none => simp
  | some number =>
      simp only [Option.some.injEq]
      split
      · simp only [Option.some.injEq]
        omega
      · simp only [reduceCtorEq, false_iff]
        omega

theorem withVariable_eq_ok :
    base.withVariable environment = .ok config ↔
      (environment.setting? Environment.workersVariable = none ∧ config = base) ∨
      ∃ text workers, environment.setting? Environment.workersVariable = some text ∧
        workersOf? text = some workers ∧ config = { base with workers } := by
  unfold withVariable
  cases environment.setting? Environment.workersVariable with
  | none => simp [eq_comm]
  | some text =>
      cases read : workersOf? text with
      | none => simp [read]
      | some workers => simp [read, eq_comm]

theorem withVariable_eq_error (failed : base.withVariable environment = .error failure) :
    ∃ error, failure = .rejected error := by
  unfold withVariable at failed
  split at failed
  · cases failed
  · split at failed
    · cases failed
    · exact ⟨_, (Except.error.inj failed).symm⟩

theorem withVariable_isPositive (positive : base.IsPositive)
    (made : base.withVariable environment = .ok config) : config.IsPositive := by
  rcases withVariable_eq_ok.mp made with ⟨-, rfl⟩ | ⟨text, workers, -, read, rfl⟩
  · exact positive
  · exact positive.withCount (workersOf?_eq_some.mp read).2

theorem load_isPositive (loaded : load workspace environment path? = .ok config) :
    config.IsPositive := by
  rw [load_eq_bind] at loaded
  obtain ⟨base, made, loaded⟩ := bind_eq_ok.mp loaded
  exact withVariable_isPositive (ofFile_isPositive made) loaded

theorem load_eq_error (failed : load workspace environment path? = .error failure) :
    (∃ error, failure = .rejected error) ∨
      ∃ path, filePath? environment path? = some path ∧ IsUnreadable workspace path := by
  rw [load_eq_bind] at failed
  rcases bind_eq_error.mp failed with unmade | ⟨base, -, refused⟩
  · cases named : filePath? environment path? with
    | none =>
        rw [named] at unmade
        cases unmade
    | some path =>
        rw [named] at unmade
        exact (readFile_eq_error unmade).imp_right fun unreadable => ⟨path, rfl, unreadable⟩
  · exact Or.inl (withVariable_eq_error refused)

theorem load_of_isUnreadable (named : filePath? environment path? = some path)
    (unreadable : IsUnreadable workspace path) :
    ∃ failure, load workspace environment path? = .error failure ∧
      ∀ error, failure ≠ .rejected error := by
  obtain ⟨failure, failed, other⟩ := readFile_of_isUnreadable {} unreadable
  refine ⟨failure, ?_, other⟩
  rw [load_eq_bind, named]
  exact bind_eq_error.mpr (Or.inl failed)

end AssetAudit.Config
