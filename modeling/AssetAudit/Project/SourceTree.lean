import AssetAudit.Files.TextFile
import AssetAudit.Source

namespace AssetAudit

/-! What a project holds, by the names of its files: texts to read, images, image sets, and
images that ship in resource bundles.  Hidden directories are left out, and asset catalogs hold
nothing but image sets. -/

structure SourceTree where
  /-- The directory of the project, as it was given. -/
  root : String
  textPaths : List (String × Category)
  imagePaths : List String
  catalogGroups : List String
  bundleImages : List String
deriving DecidableEq

/-- Why the tree of a project cannot be scanned. -/
inductive ScanFailure where
  | notADirectory (root : String)
  /-- The directory from which the root would lead is gone. -/
  | directoryGone
deriving DecidableEq

def ScanFailure.message : ScanFailure → String
  | notADirectory root => "not a directory: " ++ root
  | directoryGone => AccessFailure.notFound.headline

def hasEnding (ending name : String) : Bool := ending.toList.isSuffixOf name.toList

def isHidden (name : String) : Bool := ['.'].isPrefixOf name.toList

def isCatalog (name : String) : Bool := hasEnding ".xcassets" name

def isBundle (name : String) : Bool := hasEnding ".bundle" name

def isImageSet (name : String) : Bool := hasEnding ".imageset" name

/-- Extensions of the files that count as images of the project. -/
def assetExtensions : List String := ["png", "jpg", "jpeg", "pdf", "svg"]

def isAssetFile (fileName : String) : Bool :=
  assetExtensions.contains (FileName.extension fileName)

/-- A path from the root of the project. -/
def relativePath (location : Location) : String := String.intercalate "/" location

/-- The last name on the way to an entry. -/
def fileNameOf (location : Location) : String := location.getLastD ""

/-- Can a walk from the root get into a directory?  The path to it must not be too long. -/
def isWalkable (root : String) (directory : Location) : Bool :=
  directory.isEmpty || FileTree.fits (joinPaths root (relativePath directory))

/-- The name of a file among the entries of a directory. -/
def fileName? : String × Entry → Option String
  | (name, .file _) => some name
  | (_, .directory) => none

/-- The name of a directory that is not hidden among the entries of another one. -/
def openDirectory? : String × Entry → Option String
  | (name, .directory) => if isHidden name then none else some name
  | (_, .file _) => none

/-- A directory that a walk comes to, with the names of its files in ascending order. -/
structure Visit where
  /-- Its place from the root of the project. -/
  directory : Location
  fileNames : List String
deriving DecidableEq

namespace Visit

/-- The visit of a directory below `base`. -/
def of (tree : FileTree) (base directory : Location) : Visit :=
  ⟨directory, Text.sorted ((tree.children (base ++ directory)).filterMap fileName?)⟩

def files (visit : Visit) : List Location :=
  visit.fileNames.map fun name => visit.directory ++ [name]

/-- Is the directory a catalog or in one? -/
def isInCatalog (visit : Visit) : Bool := visit.directory.any isCatalog

/-- Is the directory an image set in a catalog? -/
def isGroup (visit : Visit) : Bool := visit.isInCatalog && isImageSet (fileNameOf visit.directory)

end Visit

namespace FileTree

/-- The visits of a walk from one directory, which goes down this many levels at most.  A directory
comes before those in it, and these come in ascending order.  A walk passes hidden directories by
and cannot enter one whose path is too long. -/
def walkFrom (tree : FileTree) (root : String) (base : Location) : Nat → Location → List Visit
  | 0, _ => []
  | levels + 1, directory =>
      if isWalkable root directory then
        let names := Text.sorted ((tree.children (base ++ directory)).filterMap openDirectory?)
        .of tree base directory :: names.flatMap fun name =>
          walkFrom tree root base levels (directory ++ [name])
      else []

/-- The visits of a walk through a project.  No directory is below the deepest level. -/
def walk (tree : FileTree) (root : String) (base : Location) : List Visit :=
  tree.walkFrom root base (tree.depth + 1) []

end FileTree

/-- The files outside all catalogs, in the order of the walk. -/
def filesOutsideCatalogs (visits : List Visit) : List Location :=
  (visits.filter (!·.isInCatalog)).flatMap Visit.files

namespace SourceTree

/-- The text file at a place, unless it is an image or of no known category. -/
def textAt? (fallbackExtensions : List String) (location : Location) :
    Option (String × Category) :=
  if isAssetFile (fileNameOf location) then none
  else
    (Category.ofFileName? fallbackExtensions (fileNameOf location)).map fun category =>
      (relativePath location, category)

/-- Sorts what a walk comes to. -/
def ofVisits (root : String) (fallbackExtensions : List String) (visits : List Visit) :
    SourceTree :=
  let files := filesOutsideCatalogs visits
  let images := files.filter fun location => isAssetFile (fileNameOf location)
  { root
    textPaths := files.filterMap (textAt? fallbackExtensions)
    imagePaths := images.map relativePath
    catalogGroups := (visits.filter (·.isGroup)).map fun visit => relativePath visit.directory
    bundleImages := (images.filter fun location => location.dropLast.any isBundle).map
      fun location => FileName.stem (fileNameOf location) }

/-- Scans a project. -/
def scan (workspace : Workspace) (root : String) (fallbackExtensions : List String) :
    Except ScanFailure SourceTree := do
  let some location := (workspace.files.locate workspace.directory root).toOption
    | throw (.notADirectory root)
  if !workspace.files.isDirectory location then throw (.notADirectory root)
  if (workspace.place? root).isNone then throw .directoryGone
  return ofVisits root fallbackExtensions (workspace.files.walk root location)

end SourceTree

/-- A text file that could not be read. -/
structure SkippedFile where
  path : String
  reason : String
deriving DecidableEq

/-- Why a text file is skipped. -/
def skipReason : TextFailure → String
  | .access failure => failure.reason
  | .decoding error => "encoding: " ++ error.problem.reason

/-- Reads a text file of a project. -/
def readSource (workspace : Workspace) (root path : String) (category : Category) :
    Except TextFailure SourceFile :=
  (workspace.readText (joinPaths root path)).map fun text =>
    ⟨path, category, String.ofList text⟩

end AssetAudit
