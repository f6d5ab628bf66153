import AssetAudit.Text.Search

namespace AssetAudit

/-! Paths as texts, and how they are joined. -/

/-- The parts of a path between its slashes. -/
def pathParts (path : String) : List String :=
  (Text.pieces '/' path.toList).map String.ofList

def isAbsolutePath (path : String) : Bool := ['/'].isPrefixOf path.toList

/-- A path below another one.  Nothing is cleaned up, and an absolute path replaces the other. -/
def joinPaths (base path : String) : String :=
  if isAbsolutePath path || base.isEmpty then path
  else if base.toList.getLast? = some '/' then base ++ path
  else base ++ "/" ++ path

/-- A path without empty parts and without parts that stay in place. -/
structure CleanPath where
  /-- The slashes in front: none, one, or exactly two. -/
  root : String
  parts : List String
deriving DecidableEq

namespace CleanPath

/-- Two slashes in front are kept, more than two become one. -/
def rootOf (path : List Char) : String :=
  match (path.takeWhile (· = '/')).length with
  | 0 => ""
  | 2 => "//"
  | _ => "/"

def ofText (path : String) : CleanPath :=
  ⟨rootOf path.toList, (pathParts path).filter fun part => part ≠ "" ∧ part ≠ "."⟩

/-- A path with no parts at all is shown as a dot. -/
def text (path : CleanPath) : String :=
  let shown := path.root ++ String.intercalate "/" path.parts
  if shown.isEmpty then "." else shown

def isAbsolute (path : CleanPath) : Bool := !path.root.isEmpty

/-- A path below another one; an absolute path replaces it. -/
def join (base path : CleanPath) : CleanPath :=
  if path.isAbsolute then path else ⟨base.root, base.parts ++ path.parts⟩

end CleanPath

/-- The place of a file or directory: the names on the way from the root of the disk.  An empty
name stands for a directory that was removed while it was in use. -/
abbrev Location := List String

namespace Location

def text (location : Location) : String := "/" ++ String.intercalate "/" location

/-- Goes one part further.  Going up from the root stays there. -/
def move (here : Location) (part : String) : Location :=
  if part = "" ∨ part = "." then here
  else if part = ".." then here.dropLast
  else here ++ [part]

/-- The place of a path seen from a directory, whether or not anything is there. -/
def ofPath (directory : Location) (path : String) : Location :=
  (pathParts path).foldl move (if isAbsolutePath path then [] else directory)

/-- Is a directory on the way removed? -/
def isGone (location : Location) : Bool := location.contains ""

/-- Where somebody who was here is after the removal of `removed`.  Whoever was inside stays in
a directory that is gone, as far down as before. -/
def afterRemoval (removed here : Location) : Location :=
  if removed.isPrefixOf here then
    removed.dropLast ++ List.replicate (here.length + 1 - removed.length) ""
  else here

/-- The places on the way up, given the names in reverse order. -/
def ancestryOf : List String → List Location
  | [] => [[]]
  | name :: above => (name :: above).reverse :: ancestryOf above

/-- The place itself and all places above it, the nearest first. -/
def ancestry (location : Location) : List Location := ancestryOf location.reverse

end Location

end AssetAudit
