import AssetAudit.Environment.Settings
import AssetAudit.Environment.SettingsFile
import AssetAudit.Files.TextFile
import AssetAudit.Log

namespace AssetAudit

/-! Finding the settings file of a project and taking its settings into the environment. -/

/-- The settings in a file, with the numbers of its malformed lines. -/
structure SettingsReading where
  settings : List (String × String)
  malformedLines : List Nat

namespace SettingsFile

def fileName : String := ".env"

/-- Whatever has this name marks the topmost directory of a repository. -/
def boundaryName : String := ".git"

/-- The first settings file in one of the directories, as long as none before it is the topmost
one of its repository. -/
def findAmong (files : FileTree) : List Location → Option Location
  | [] => none
  | directory :: above =>
      if files.isFile (directory ++ [fileName]) then some (directory ++ [fileName])
      else if files.contains (directory ++ [boundaryName]) then none
      else findAmong files above

/-- The nearest settings file at or above a place, inside its repository. -/
def find (files : FileTree) (start : Location) : Option Location :=
  findAmong files start.ancestry

/-- Reads the settings file at the end of a path. -/
def read (workspace : Workspace) (path : String) : Except TextFailure SettingsReading := do
  let text ← workspace.readText path
  return ⟨settings text, malformedLines text⟩

/-- The line about a malformed line. -/
def malformedLine (path : String) (number : Nat) : LogLine :=
  ⟨.warning, .environment, path ++ ":" ++ Text.decimal number ++
    ": not a KEY=value line, ignored"⟩

def ignoredLine (name : String) : LogLine :=
  ⟨.debug, .environment, "ignoring " ++ name ++ ": not an asset-tool variable"⟩

/-- The line about a file whose settings were applied. -/
def appliedLine (path : String) (names : List String) : LogLine :=
  ⟨.debug, .environment, path ++ ": applied " ++
    if names.isEmpty then "nothing" else String.intercalate ", " names⟩

end SettingsFile

/-- Why settings cannot be loaded. -/
inductive EnvironmentFailure where
  | file (path : String) (failure : TextFailure)
  | setting (failure : SettingFailure)
  /-- The directory from which a path would lead is gone. -/
  | directoryGone
deriving DecidableEq

def EnvironmentFailure.message : EnvironmentFailure → String
  | file path failure => failure.message path
  | setting failure => failure.message
  | directoryGone => AccessFailure.notFound.headline

/-- The nearest settings file at or above the end of a path, which need not exist. -/
def SettingsFile.findFrom (workspace : Workspace) (path : String) :
    Except EnvironmentFailure (Option Location) :=
  if path.toList.contains '\x00' then .error (.file path (.access .embeddedNul))
  else
    match workspace.place? path with
    | none => .error .directoryGone
    | some start =>
        let nearest : Location := start ++ [fileName]
        match workspace.files.locate [] nearest.text with
        | .error .nameTooLong => .error (.file nearest.text (.access .nameTooLong))
        | _ => .ok (find workspace.files start)

/-- The outcome of loading settings. -/
structure EnvironmentLoading where
  environment : Environment
  log : List LogLine
  /-- The path of the file that was used, if there is one. -/
  outcome : Except EnvironmentFailure (Option String)

namespace Environment

/-- Takes the settings that were read from the file at the end of a path into the environment.
Paths among them lead from `directory`. -/
def applyReading (environment : Environment) (path : String) (directory : Location)
    (reading : SettingsReading) : EnvironmentLoading :=
  let applied := environment.apply (.ofText directory.text) reading.settings
  let log := reading.malformedLines.map (SettingsFile.malformedLine path) ++
    applied.ignored.map SettingsFile.ignoredLine
  match applied.failure? with
  | some failure => ⟨applied.environment, log, .error (.setting failure)⟩
  | none =>
      ⟨applied.environment, log ++ [SettingsFile.appliedLine path applied.names],
        .ok (some path)⟩

/-- Takes the settings in the file at the end of a path into the environment. -/
def loadFile (environment : Environment) (workspace : Workspace) (path : String) :
    EnvironmentLoading :=
  match SettingsFile.read workspace path, workspace.place? path with
  | .error failure, _ => ⟨environment, [], .error (.file path failure)⟩
  | .ok _, none => ⟨environment, [], .error .directoryGone⟩
  | .ok reading, some place => environment.applyReading path place.dropLast reading

/-- The path of the settings file: the one asked for, or else the nearest one.  An empty path
counts as none. -/
def settingsPath (workspace : Workspace) (path? : Option String) :
    Except EnvironmentFailure (Option String) :=
  match path?.filter fun path => !path.isEmpty with
  | some path => .ok (some (CleanPath.ofText path).text)
  | none => do return (← SettingsFile.findFrom workspace ".").map Location.text

/-- Takes the settings of a project into the environment.  Without a settings file nothing
happens. -/
def load (environment : Environment) (workspace : Workspace) (path? : Option String) :
    EnvironmentLoading :=
  match settingsPath workspace path? with
  | .error failure => ⟨environment, [], .error failure⟩
  | .ok none => ⟨environment, [], .ok none⟩
  | .ok (some path) =>
      match workspace.files.locate workspace.directory path with
      | .error .nameTooLong => ⟨environment, [], .error (.file path (.access .nameTooLong))⟩
      | .error _ => ⟨environment, [], .ok none⟩
      | .ok location =>
          if workspace.files.isFile location then environment.loadFile workspace path
          else ⟨environment, [], .ok none⟩

end Environment

end AssetAudit
