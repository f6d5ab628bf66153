import AssetAudit.Files.Path
import AssetAudit.Text.Quoted
import AssetAudit.Text.Sorted

namespace AssetAudit

/-! Files and directories on a disk, and how a path reaches them. -/

inductive Entry where
  | file (content : List UInt8)
  | directory
deriving DecidableEq

/-- All entries of a disk with their places, in any order.  The root directory is not listed. -/
structure FileTree where
  entries : List (Location × Entry)

/-- Why a path cannot be used. -/
inductive AccessFailure where
  | notFound
  | notADirectory
  | isADirectory
  | nameTooLong
  | embeddedNul
deriving DecidableEq

namespace AccessFailure

def number : AccessFailure → String
  | notFound => "2"
  | notADirectory => "20"
  | isADirectory => "21"
  | nameTooLong => "36"
  | embeddedNul => "22"

def reason : AccessFailure → String
  | notFound => "No such file or directory"
  | notADirectory => "Not a directory"
  | isADirectory => "Is a directory"
  | nameTooLong => "File name too long"
  | embeddedNul => "embedded null byte"

/-- The message without a path. -/
def headline (failure : AccessFailure) : String :=
  "[Errno " ++ failure.number ++ "] " ++ failure.reason

/-- The message about a path as it was given. -/
def message (path : String) : AccessFailure → String
  | embeddedNul => embeddedNul.reason
  | failure => failure.headline ++ ": " ++ Text.quoted path

end AccessFailure

namespace FileTree

/-- What is at a place.  A removed directory is an empty one for whoever is still in it. -/
def entry? (tree : FileTree) (location : Location) : Option Entry :=
  if location = [] || location.getLast? = some "" then some .directory
  else (tree.entries.find? (·.1 = location)).map (·.2)

def isDirectory (tree : FileTree) (location : Location) : Bool :=
  tree.entry? location = some .directory

def isFile (tree : FileTree) (location : Location) : Bool :=
  match tree.entry? location with
  | some (.file _) => true
  | _ => false

def contains (tree : FileTree) (location : Location) : Bool := (tree.entry? location).isSome

/-- No name may have more bytes. -/
def maxNameBytes : Nat := 255

/-- No path may have more bytes. -/
def maxPathBytes : Nat := 4095

/-- Is a path short enough to be used? -/
def fits (path : String) : Bool := path.utf8ByteSize ≤ maxPathBytes

/-- Goes one part of a path further, which only a directory allows. -/
def step (tree : FileTree) (here : Location) (part : String) : Except AccessFailure Location :=
  match tree.entry? here with
  | none => .error .notFound
  | some (.file _) => .error .notADirectory
  | some .directory =>
      if part.utf8ByteSize > maxNameBytes && !here.isGone then .error .nameTooLong
      else .ok (here.move part)

/-- The parts of a path that name something or demand a directory: empty parts count only at
the end. -/
def stepsOf (path : String) : List String :=
  match (pathParts path).reverse with
  | [] => []
  | last :: before => ((if last = "" then "." else last) :: before.filter (· ≠ "")).reverse

/-- Where a path leads from a directory.  What it leads to need not exist. -/
def locate (tree : FileTree) (directory : Location) (path : String) :
    Except AccessFailure Location :=
  if path.toList.contains '\x00' then .error .embeddedNul
  else if path.isEmpty then .error .notFound
  else if !fits path then .error .nameTooLong
  else
    (stepsOf path).foldlM tree.step (if isAbsolutePath path then [] else directory)

/-- The content of the file at the end of a path. -/
def content (tree : FileTree) (directory : Location) (path : String) :
    Except AccessFailure (List UInt8) := do
  match tree.entry? (← tree.locate directory path) with
  | none => throw .notFound
  | some .directory => throw .isADirectory
  | some (.file content) => return content

def pathIsDirectory (tree : FileTree) (directory : Location) (path : String) : Bool :=
  match tree.locate directory path with
  | .ok location => tree.isDirectory location
  | .error _ => false

def pathIsFile (tree : FileTree) (directory : Location) (path : String) : Bool :=
  match tree.locate directory path with
  | .ok location => tree.isFile location
  | .error _ => false

/-- What a directory itself takes up. -/
def directorySize : Nat := 4096

/-- The size at the end of a path, zero if there is nothing. -/
def byteSize (tree : FileTree) (directory : Location) (path : String) : Nat :=
  match tree.locate directory path with
  | .error _ => 0
  | .ok location =>
      match tree.entry? location with
      | none => 0
      | some .directory => directorySize
      | some (.file content) => content.length

/-- The part of a place behind a directory above it. -/
def relativeTo (directory location : Location) : Option Location :=
  if directory.isPrefixOf location then some (location.drop directory.length) else none

/-- An entry with its name, if it is directly in the directory. -/
def childOf? (directory : Location) (listed : Location × Entry) : Option (String × Entry) :=
  match relativeTo directory listed.1 with
  | some [name] => some (name, listed.2)
  | _ => none

/-- What is directly in a directory, in the order in which the disk lists it. -/
def children (tree : FileTree) (directory : Location) : List (String × Entry) :=
  tree.entries.filterMap (childOf? directory)

/-- The names of the entries directly in a directory, in ascending order. -/
def namesIn (tree : FileTree) (directory : Location) : List String :=
  Text.sorted ((tree.children directory).map (·.1))

/-- How many names the longest place has. -/
def depth (tree : FileTree) : Nat := (tree.entries.map (·.1.length)).max?.getD 0

/-- The names in the directory at the end of a path. -/
def list (tree : FileTree) (directory : Location) (path : String) :
    Except AccessFailure (List String) := do
  let location ← tree.locate directory path
  match tree.entry? location with
  | none => throw .notFound
  | some (.file _) => throw .notADirectory
  | some .directory => return tree.namesIn location

/-- Makes a directory unless something is there. -/
def makeDirectory (tree : FileTree) (location : Location) : FileTree :=
  if tree.contains location then tree else ⟨tree.entries ++ [(location, .directory)]⟩

/-- Makes a directory and all those above it. -/
def makeDirectories (tree : FileTree) (location : Location) : FileTree :=
  location.ancestry.foldr (fun directory tree => tree.makeDirectory directory) tree

/-- Writes a file, in directories that are made as needed. -/
def write (tree : FileTree) (location : Location) (content : List UInt8) : FileTree :=
  let within := tree.makeDirectories location.dropLast
  ⟨within.entries.filter (·.1 ≠ location) ++ [(location, .file content)]⟩

/-- Removes an entry and everything below it. -/
def remove (tree : FileTree) (location : Location) : FileTree :=
  ⟨tree.entries.filter fun (place, _) => !location.isPrefixOf place⟩

end FileTree

/-- A disk with a current directory, which may be gone. -/
structure Workspace where
  files : FileTree
  directory : Location

/-- The place of a path, whether or not anything is there.  A path from a directory that is gone
has none. -/
def Workspace.place? (workspace : Workspace) (path : String) : Option Location :=
  if isAbsolutePath path then some (Location.ofPath [] path)
  else if workspace.directory.isGone then none
  else some (Location.ofPath workspace.directory path)

end AssetAudit
