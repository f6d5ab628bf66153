import AssetAudit.CommandLine.Run

/-! The program: it reads what a run needs from the disk and the environment, and writes what the
run has to say. -/

namespace AssetAudit.Disk

/-- Reads everything in a directory, with places below `location`. -/
partial def readBelow (location : Location) : IO (List (Location × Entry)) := do
  let here ← IO.currentDir
  let mut entries := []
  for found in ← (here / location.text).readDir do
    let place : Location := location ++ [found.fileName]
    if ← found.path.isDir then
      entries := (place, .directory) :: entries ++ (← readBelow place)
    else
      entries := (place, .file (← IO.FS.readBinFile found.path).toList) :: entries
  return entries

/-- Adds what is at a place to the files, unless it is among them. -/
def addPlace (files : FileTree) (location : Location) : IO FileTree := do
  let place := (← IO.currentDir) / location.text
  if files.contains location then return files
  else if ← place.isDir then return files.makeDirectories location
  else if ← place.pathExists then
    return files.write location (← IO.FS.readBinFile place).toList
  else return files

/-- Adds what is on the way to a place, and what is there. -/
def addWay (files : FileTree) (location : Location) : IO FileTree :=
  location.ancestry.reverse.foldlM addPlace files

/-- Adds a directory with everything in it. -/
def addProject (files : FileTree) (location : Location) : IO FileTree := do
  let files ← addWay files location
  if files.isDirectory location then
    let below := (← readBelow location).filter fun (place, _) => !files.contains place
    return ⟨files.entries ++ below⟩
  else return files

/-- The places where settings of a project may be. -/
def settingsPlaces (directory : Location) (path? : Option String) : List Location :=
  (path?.map (Location.ofPath directory)).toList ++
    directory.ancestry.flatMap fun above =>
      [above ++ [SettingsFile.fileName], above ++ [SettingsFile.boundaryName]]

/-- Reads the files that a report needs, when the settings are known. -/
def addRequest (files : FileTree) (directory : Location) (environment : Environment) :
    CommandLine.Request → IO FileTree
  | .report _ root options => do
      let path? := Config.filePath? environment options.config
      let files ← ((path?.map (Location.ofPath directory)).toList).foldlM addWay files
      addProject files (Location.ofPath directory root)
  | _ => return files

/-- Reads the files that a run needs. -/
def readFor (invocation : CommandLine.Invocation) (directory : Location)
    (environment : Environment) : IO FileTree := do
  let files ← (settingsPlaces directory invocation.settingsFile).foldlM addWay ⟨[]⟩
  let loading := environment.load ⟨files, directory⟩ invocation.settingsFile
  addRequest files directory loading.environment invocation.request

/-- The variables of this program. -/
def readEnvironment : IO Environment :=
  [Environment.configVariable, Environment.workersVariable].filterMapM fun name => do
    return (← IO.getEnv name).map fun value => (name, value)

end AssetAudit.Disk

open AssetAudit in
def main (arguments : List String) : IO UInt32 := do
  let directory := Location.ofPath [] (← IO.currentDir).toString
  let environment ← Disk.readEnvironment
  let files ←
    match CommandLine.Invocation.ofArguments arguments with
    | .ok invocation => Disk.readFor invocation directory environment
    | .error _ => pure ⟨[]⟩
  match (CommandLine.run ⟨files, directory⟩ environment arguments).result with
  | .error failure =>
      IO.eprintln failure.message
      return 1
  | .ok response =>
      IO.print response.output
      for notice in response.notices do
        IO.eprintln notice.text
      return response.status.toUInt32
