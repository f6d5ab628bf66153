import AssetAudit.Environment.Load
import AssetAudit.Proofs.Environment.Applying
import AssetAudit.Proofs.Files.Contents

namespace AssetAudit

/-! Taking in the settings file of a project: which variables it sets, and when it cannot be taken
in. -/

namespace SettingsFile

/-- A word of letters, digits and underscores. -/
def IsIdentifier (name : List Char) : Prop := name ≠ [] ∧ ∀ c ∈ name, Text.isNamePart c = true

theorem sides?_isIdentifier {line name right : List Char}
    (found : sides? line = some (name, right)) : IsIdentifier name := by
  cases line with
  | nil => cases found
  | cons c rest =>
      rw [sides?] at found
      split at found
      · rename_i start
        split at found
        · obtain ⟨rfl, -⟩ := Prod.mk.inj (Option.some.inj found)
          refine ⟨List.cons_ne_nil _ _, fun d member => ?_⟩
          rcases List.mem_cons.mp member with rfl | later
          · rw [Text.isNamePart, start, Bool.true_or]
          · exact List.all_eq_true.mp List.all_takeWhile d later
        · cases found
      · cases found

theorem assignment?_isIdentifier {line name right : List Char}
    (found : assignment? line = some (name, right)) : IsIdentifier name := by
  rw [assignment?] at found
  cases exported : (afterExport? line).bind sides? with
  | some sides =>
      rw [exported] at found
      obtain rfl := Option.some.inj found
      obtain ⟨rest, -, named⟩ := Option.bind_eq_some_iff.mp exported
      exact sides?_isIdentifier named
  | none =>
      rw [exported] at found
      exact sides?_isIdentifier found

theorem setting_isIdentifier {line name value : List Char}
    (read : SettingLine.ofText line = .setting name value) : IsIdentifier name := by
  rw [SettingLine.ofText, SettingLine.ofStripped] at read
  split at read
  · cases read
  · split at read
    · rename_i found
      cases read
      exact assignment?_isIdentifier found
    · cases read

/-- Whatever a settings file sets is called by an identifier. -/
theorem settings_isIdentifier {text : List Char} {name value : String}
    (stated : KeyedList.get? (settings text) name = some value) : IsIdentifier name.toList := by
  have known : name ∈ KeyedList.names (settings text) :=
    List.mem_map.mpr ⟨_, KeyedList.mem_of_get? stated, rfl⟩
  obtain ⟨⟨_, written⟩, among, rfl⟩ := List.mem_map.mp (KeyedList.mem_names_ofList.mp known)
  obtain ⟨line, listed, entry⟩ := List.mem_filterMap.mp among
  obtain ⟨written, -, rfl⟩ := List.mem_map.mp listed
  cases read : SettingLine.ofText written with
  | setting name value =>
      rw [read] at entry
      obtain ⟨rfl, -⟩ := Prod.mk.inj (Option.some.inj entry)
      exact (String.toList_ofList ▸ setting_isIdentifier read)
  | blank | malformed =>
      rw [read] at entry
      cases entry

end SettingsFile

/-- For an identifier a value is refused for a null character only. -/
theorem SettingFailure.ofSetting?_eq_none {name value : String}
    (identifier : SettingsFile.IsIdentifier name.toList) :
    ofSetting? name value = none ↔ '\x00' ∉ value.toList := by
  obtain ⟨nonempty, parts⟩ := identifier
  have named : name.isEmpty = false := by
    cases empty : name.isEmpty with
    | false => rfl
    | true => exact absurd (by simpa using empty) nonempty
  have noNul : '\x00' ∉ name.toList := fun member => absurd (parts _ member) (by decide)
  have noEquals : '=' ∉ name.toList := fun member => absurd (parts _ member) (by decide)
  simp [ofSetting?, named, noNul, noEquals]

theorem SettingsFile.read_of_text {workspace : Workspace} {path : String} {text : List Char}
    (read : workspace.readText path = .ok text) :
    SettingsFile.read workspace path = .ok ⟨settings text, malformedLines text⟩ := by
  rw [SettingsFile.read, read]
  rfl

/-- The settings in the file of a project, with the directory from which paths among them lead;
none where there is no such file or it cannot be read. -/
def SettingsFile.taken? (workspace : Workspace) (path? : Option String) :
    Option (Location × List (String × String)) :=
  match Environment.settingsPath workspace path? with
  | .ok (some path) =>
      match workspace.readText path, workspace.place? path with
      | .ok text, some place => some (place.dropLast, settings text)
      | _, _ => none
  | _ => none

theorem SettingsFile.taken?_eq_some {workspace : Workspace} {path? : Option String}
    {directory : Location} {taken : List (String × String)} :
    taken? workspace path? = some (directory, taken) ↔
      ∃ path text place, Environment.settingsPath workspace path? = .ok (some path) ∧
        workspace.readText path = .ok text ∧ workspace.place? path = some place ∧
          place.dropLast = directory ∧ settings text = taken := by
  constructor
  · intro found
    unfold taken? at found
    split at found
    · rename_i path used
      split at found
      · rename_i text place read placed
        obtain ⟨rfl, rfl⟩ := Prod.mk.inj (Option.some.inj found)
        exact ⟨path, text, place, used, read, placed, rfl, rfl⟩
      · cases found
    · cases found
  · rintro ⟨path, text, place, used, read, placed, rfl, rfl⟩
    simp only [taken?, used, read, placed]

namespace Environment

/-- The value of a variable: the one in the environment, even an empty one, or else the one in the
settings, where the path of the configuration is one from their directory. -/
def effective? (environment : Environment) (taken? : Option (Location × List (String × String)))
    (name : String) : Option String :=
  (KeyedList.get? environment name).or
    (taken?.bind fun (directory, settings) =>
      (KeyedList.get? settings name).map (valueOf (.ofText directory.text) name))

/-- What keeps a project's settings out of the environment. -/
inductive IsBroken (environment : Environment) (workspace : Workspace) (path? : Option String) :
    Prop
  /-- The search for a settings file starts in a directory that is gone. -/
  | searchGone (unnamed : path?.filter (fun path => !path.isEmpty) = none)
      (gone : workspace.directory.isGone = true)
  /-- The search starts where the path of a settings file is too long. -/
  | searchTooLong (unnamed : path?.filter (fun path => !path.isEmpty) = none)
      (present : workspace.directory.isGone = false)
      (tooLong : workspace.files.locate []
        (Location.text (workspace.directory ++ [SettingsFile.fileName])) = .error .nameTooLong)
  | pathTooLong {path : String} (used : settingsPath workspace path? = .ok (some path))
      (tooLong : workspace.files.locate workspace.directory path = .error .nameTooLong)
  /-- The bytes of the file are no text. -/
  | undecodable {path : String} {error : Text.Utf8.DecodeError}
      (used : settingsPath workspace path? = .ok (some path))
      (undecodable : workspace.readText path = .error (.decoding error))
  /-- The path of the file leads from a directory that is gone. -/
  | directoryGone {path : String} {text : List Char}
      (used : settingsPath workspace path? = .ok (some path))
      (read : workspace.readText path = .ok text) (gone : workspace.place? path = none)
  /-- A setting would give a variable a value with a null character. -/
  | embeddedNul {directory : Location} {settings : List (String × String)} {name value : String}
      (taken : SettingsFile.taken? workspace path? = some (directory, settings))
      (own : isOwn name = true) (unset : KeyedList.get? environment name = none)
      (stated : KeyedList.get? settings name = some value)
      (nul : '\x00' ∈ (valueOf (.ofText directory.text) name value).toList)

variable {environment : Environment} {workspace : Workspace} {path? : Option String}

theorem ofPath_here (directory : Location) : Location.ofPath directory "." = directory := rfl

/-- The search for a settings file fails for its starting place only. -/
theorem settingsPath_eq_error :
    (∃ failure, settingsPath workspace path? = .error failure) ↔
      path?.filter (fun path => !path.isEmpty) = none ∧
        (workspace.directory.isGone = true ∨ workspace.directory.isGone = false ∧
          workspace.files.locate []
            (Location.text (workspace.directory ++ [SettingsFile.fileName])) =
              .error .nameTooLong) := by
  have plain : ".".toList.contains '\x00' = false := by decide
  have relative : isAbsolutePath "." = false := by decide
  unfold settingsPath
  cases named : path?.filter fun path => !path.isEmpty with
  | some path => simp
  | none =>
      simp only [SettingsFile.findFrom, plain, Workspace.place?, relative, true_and,
        Bool.false_eq_true, if_false]
      cases gone : workspace.directory.isGone with
      | true => simp [bind, Except.bind]
      | false =>
          simp only [Bool.false_eq_true, if_false, ofPath_here, false_or, true_and]
          split
          · rename_i tooLong
            simp [tooLong, bind, Except.bind]
          · rename_i found
            exact iff_of_false (fun failed => by cases failed.choose_spec) found

/-- The only text that is at hand but not taken in is one whose directory is gone. -/
theorem loadFile_not_taken {path : String} {location : Location}
    (used : settingsPath workspace path? = .ok (some path))
    (located : workspace.files.locate workspace.directory path = .ok location)
    (isFile : workspace.files.isFile location = true)
    (notTaken : SettingsFile.taken? workspace path? = none) :
    (environment.loadFile workspace path).environment = environment ∧
      ((environment.loadFile workspace path).outcome = .ok none ∨
        (∃ failure, (environment.loadFile workspace path).outcome = .error failure) ∧
          environment.IsBroken workspace path?) := by
  obtain ⟨bytes, found⟩ := isFile_iff.mp isFile
  have read := readText_of_content (content_eq_ok.mpr ⟨location, located, found⟩)
  cases decoded : decodeText bytes with
  | error failure =>
      obtain ⟨error, rfl⟩ := decodeText_eq_error decoded
      rw [decoded] at read
      have reading : SettingsFile.read workspace path = .error (.decoding error) := by
        rw [SettingsFile.read, read]
        rfl
      rw [loadFile, reading]
      exact ⟨rfl, Or.inr ⟨⟨_, rfl⟩, .undecodable used read⟩⟩
  | ok text =>
      rw [decoded] at read
      have reading := SettingsFile.read_of_text read
      rw [loadFile, reading]
      cases placed : workspace.place? path with
      | none => exact ⟨rfl, Or.inr ⟨⟨_, rfl⟩, .directoryGone used read placed⟩⟩
      | some place => simp [SettingsFile.taken?, used, read, placed] at notTaken

/-- Where there are no settings to take in, the environment stays as it is. -/
theorem load_not_taken (environment : Environment)
    (notTaken : SettingsFile.taken? workspace path? = none) :
    (environment.load workspace path?).environment = environment ∧
      ((environment.load workspace path?).outcome = .ok none ∨
        (∃ failure, (environment.load workspace path?).outcome = .error failure) ∧
          environment.IsBroken workspace path?) := by
  unfold load
  cases used : settingsPath workspace path? with
  | error failure =>
      refine ⟨rfl, Or.inr ⟨⟨failure, rfl⟩, ?_⟩⟩
      obtain ⟨unnamed, gone | ⟨present, tooLong⟩⟩ := settingsPath_eq_error.mp ⟨failure, used⟩
      · exact .searchGone unnamed gone
      · exact .searchTooLong unnamed present tooLong
  | ok used? =>
      cases used? with
      | none => exact ⟨rfl, Or.inl rfl⟩
      | some path =>
          simp only
          split
          · rename_i tooLong
            exact ⟨rfl, Or.inr ⟨⟨_, rfl⟩, .pathTooLong used tooLong⟩⟩
          · exact ⟨rfl, Or.inl rfl⟩
          · rename_i location located
            split
            · rename_i isFile
              exact loadFile_not_taken used located isFile notTaken
            · exact ⟨rfl, Or.inl rfl⟩

theorem load_of_content {path : String} {bytes : List UInt8}
    (used : settingsPath workspace path? = .ok (some path))
    (content : workspace.files.content workspace.directory path = .ok bytes) :
    environment.load workspace path? = environment.loadFile workspace path := by
  obtain ⟨location, located, found⟩ := content_eq_ok.mp content
  have isFile := isFile_iff.mpr ⟨bytes, found⟩
  simp only [load, used, located, isFile, if_true]

theorem load_taken (environment : Environment) {directory : Location}
    {settings : List (String × String)}
    (taken : SettingsFile.taken? workspace path? = some (directory, settings)) :
    (environment.load workspace path?).environment =
        (environment.apply (.ofText directory.text) settings).environment ∧
      ((∃ failure, (environment.load workspace path?).outcome = .error failure) ↔
        (environment.apply (.ofText directory.text) settings).failure? ≠ none) := by
  obtain ⟨path, text, place, used, read, placed, rfl, rfl⟩ := SettingsFile.taken?_eq_some.mp taken
  obtain ⟨bytes, content, -⟩ := readText_eq_ok.mp read
  rw [load_of_content used content]
  simp only [loadFile, SettingsFile.read_of_text read, placed, applyReading]
  split
  · rename_i refused
    simp [refused]
  · rename_i accepted
    simp [accepted]

/-- A setting is refused for a null character in the value that its variable would have. -/
theorem apply_taken_fails_iff {directory : Location} {settings : List (String × String)}
    (taken : SettingsFile.taken? workspace path? = some (directory, settings)) :
    (environment.apply (.ofText directory.text) settings).failure? ≠ none ↔
      ∃ name value, isOwn name = true ∧ KeyedList.get? environment name = none ∧
        KeyedList.get? settings name = some value ∧
          '\x00' ∈ (valueOf (.ofText directory.text) name value).toList := by
  obtain ⟨-, text, -, -, -, -, -, rfl⟩ := SettingsFile.taken?_eq_some.mp taken
  rw [apply_fails_iff]
  refine exists_congr fun name => exists_congr fun value => and_congr_right fun own =>
    and_congr_right fun unset => and_congr_right fun stated => ?_
  have identifier := SettingsFile.settings_isIdentifier stated
  rw [Ne, SettingFailure.ofSetting?_eq_none identifier, Decidable.not_not]

/-- Loading settings fails for no other reason than those of a broken project. -/
theorem load_fails_iff :
    (∃ failure, (environment.load workspace path?).outcome = .error failure) ↔
      environment.IsBroken workspace path? := by
  constructor
  · rintro ⟨failure, failed⟩
    cases taken : SettingsFile.taken? workspace path? with
    | none =>
        obtain ⟨-, passed | ⟨-, broken⟩⟩ := load_not_taken environment taken
        · rw [passed] at failed
          cases failed
        · exact broken
    | some given =>
        obtain ⟨directory, settings⟩ := given
        obtain ⟨name, value, own, unset, stated, nul⟩ :=
          (apply_taken_fails_iff taken).mp ((load_taken environment taken).2.mp ⟨failure, failed⟩)
        exact .embeddedNul taken own unset stated nul
  · intro broken
    cases broken with
    | searchGone unnamed gone =>
        obtain ⟨failure, failed⟩ := settingsPath_eq_error.mpr ⟨unnamed, Or.inl gone⟩
        exact ⟨failure, by rw [load, failed]⟩
    | searchTooLong unnamed present tooLong =>
        obtain ⟨failure, failed⟩ :=
          settingsPath_eq_error.mpr ⟨unnamed, Or.inr ⟨present, tooLong⟩⟩
        exact ⟨failure, by rw [load, failed]⟩
    | pathTooLong used tooLong =>
        exact ⟨_, by simp only [load, used, tooLong]; rfl⟩
    | @undecodable path error used undecodable =>
        obtain ⟨bytes, content, -⟩ := readText_eq_decoding.mp undecodable
        refine ⟨.file path (.decoding error), ?_⟩
        rw [load_of_content used content, loadFile, SettingsFile.read, undecodable]
        rfl
    | directoryGone used read gone =>
        obtain ⟨bytes, content, -⟩ := readText_eq_ok.mp read
        refine ⟨.directoryGone, ?_⟩
        rw [load_of_content used content, loadFile, SettingsFile.read_of_text read, gone]
    | embeddedNul taken own unset stated nul =>
        exact (load_taken environment taken).2.mpr
          ((apply_taken_fails_iff taken).mpr ⟨_, _, own, unset, stated, nul⟩)

/-- After loading, a variable of the program has its effective value. -/
theorem get?_load {used? : Option String} {name : String} (own : isOwn name = true)
    (loaded : (environment.load workspace path?).outcome = .ok used?) :
    KeyedList.get? (environment.load workspace path?).environment name =
      environment.effective? (SettingsFile.taken? workspace path?) name := by
  cases taken : SettingsFile.taken? workspace path? with
  | none =>
      rw [(load_not_taken environment taken).1, effective?, Option.bind_none, Option.or_none]
  | some given =>
      obtain ⟨directory, settings⟩ := given
      obtain ⟨same, fails⟩ := load_taken environment taken
      have accepted : (environment.apply (.ofText directory.text) settings).failure? = none := by
        refine Decidable.byContradiction fun refused => ?_
        obtain ⟨failure, failed⟩ := fails.mpr refused
        rw [loaded] at failed
        cases failed
      rw [same, get?_apply own accepted, effective?, Option.bind_some]

end Environment

end AssetAudit
