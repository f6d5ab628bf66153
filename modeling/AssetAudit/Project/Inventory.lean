import AssetAudit.Asset
import AssetAudit.Image.File
import AssetAudit.Project.Manifest
import AssetAudit.Project.SourceTree

namespace AssetAudit

/-! The images of a project with what their files say about them. -/

/-- Container formats, as far as a file name tells. -/
inductive ImageFormat where
  | png
  | jpeg
  | pdf
  | svg
deriving DecidableEq

namespace ImageFormat

def name : ImageFormat → String
  | png => "png"
  | jpeg => "jpeg"
  | pdf => "pdf"
  | svg => "svg"

def kind : ImageFormat → AssetKind
  | png => .png
  | jpeg => .jpeg
  | pdf => .pdf
  | svg => .svg

def ofFileName? (fileName : String) : Option ImageFormat :=
  match FileName.extension fileName with
  | "png" => some png
  | "jpg" => some jpeg
  | "jpeg" => some jpeg
  | "pdf" => some pdf
  | "svg" => some svg
  | _ => none

/-- Has the format pixels? -/
def isRaster : ImageFormat → Bool
  | png | jpeg => true
  | pdf | svg => false

end ImageFormat

/-- The scale that a file name marks; the higher of two marks counts. -/
def scaleOfFileName (fileName : String) : Int :=
  if Text.occursIn "@3x".toList fileName.toList then 3
  else if Text.occursIn "@2x".toList fileName.toList then 2
  else 1

/-- Why an image says nothing about itself. -/
inductive ImageProblem where
  | access (failure : AccessFailure)
  | content (failure : Image.Failure)
deriving DecidableEq

namespace ImageProblem

/-- The message about the image under its path. -/
def message (path : String) : ImageProblem → String
  | access failure => failure.message path
  | content failure => failure.message path

/-- Some contents cannot be dealt with at all, and nothing has a path with a NUL. -/
def isFatal : ImageProblem → Bool
  | access failure => failure = .embeddedNul
  | content failure => failure.isFatal

end ImageProblem

/-- Dimensions and colour profile of the file at the end of a path. -/
def imageMetadata (workspace : Workspace) (path : String) : Except ImageProblem Image.Metadata :=
  match workspace.files.content workspace.directory path with
  | .ok bytes => (Image.Metadata.ofBytes bytes).mapError .content
  | .error failure => .error (.access failure)

/-- The same, if the format has them. -/
def ImageFormat.metadata? (format : ImageFormat) (workspace : Workspace) (path : String) :
    Except ImageProblem (Option Image.Metadata) :=
  if format.isRaster then (imageMetadata workspace path).map some
  else if path.toList.contains '\x00' then .error (.access .embeddedNul)
  else .ok none

/-- Is the file at the end of a path an interlaced PNG?  Without a readable header there is no
answer. -/
def isInterlacedAt? (workspace : Workspace) (path : String) : Option Bool :=
  match workspace.files.content workspace.directory path with
  | .ok bytes => Image.Png.isInterlaced? bytes
  | .error _ => none

/-- An image, and why its content says nothing if it should say something. -/
structure AssetReading where
  asset : Asset
  problem? : Option ImageProblem
deriving DecidableEq

/-- Why the images of a project cannot be taken in. -/
inductive InventoryFailure where
  | image (problem : ImageProblem)
  | manifest (problem : ManifestProblem)
deriving DecidableEq

/-- The message about the failure.  The fatal ones name no path. -/
def InventoryFailure.message : InventoryFailure → String
  | image problem => problem.message ""
  | manifest problem => problem.message Manifest.fileName

namespace AssetReading

/-- The image in the file at a path of a project. -/
def ofFile (workspace : Workspace) (root path : String) (format : ImageFormat) (name : String)
    (kind : AssetKind) (scale : Int) (catalogGroup : Option String) :
    Except InventoryFailure AssetReading :=
  let full := joinPaths root path
  let bare : Asset :=
    { name, path
      byteSize := workspace.files.byteSize workspace.directory full
      kind
      fileFormat := format.name
      scale := some scale
      dimensions := none
      isInterlaced := if format = .png then isInterlacedAt? workspace full else none
      colorProfile := none
      catalogGroup }
  match format.metadata? workspace full with
  | .ok metadata? =>
      .ok ⟨{ bare with
        dimensions := metadata?.map (·.dimensions)
        colorProfile := metadata?.map (·.profile) }, none⟩
  | .error problem =>
      if problem.isFatal then .error (.image problem) else .ok ⟨bare, some problem⟩

/-- An image outside all catalogs; a file of another format is none. -/
def standalone? (workspace : Workspace) (root path : String) :
    Except InventoryFailure (Option AssetReading) :=
  let fileName := FileName.last path
  match ImageFormat.ofFileName? fileName with
  | none => .ok none
  | some format =>
      (ofFile workspace root path format (FileName.stem fileName) format.kind
        (scaleOfFileName fileName) none).map some

/-- The name of an image set: the last part of its path without the ending of image sets. -/
def setName (group : String) : String :=
  let last := (FileName.last group).toList
  String.ofList (last.take (last.length - ".imageset".length))

/-- The variant of an image set in one of its files, if the manifest gives it a scale. -/
def variant? (workspace : Workspace) (root group : String) (scales : Manifest)
    (fileName : String) : Except InventoryFailure (Option AssetReading) :=
  match ImageFormat.ofFileName? fileName, KeyedList.get? scales fileName with
  | some format, some scale =>
      (ofFile workspace root (group ++ "/" ++ fileName) format (setName group) .catalogVariant
        scale (some group)).map some
  | _, _ => .ok none

end AssetReading

/-- How an image set was taken in. -/
inductive GroupReading where
  /-- The variants in the order of their file names. -/
  | variants (readings : List AssetReading)
  /-- The set has no usable manifest. -/
  | passedOver (problem : ManifestProblem)
  /-- The files of the set cannot be listed. -/
  | unlisted (failure : AccessFailure)

namespace GroupReading

def readings : GroupReading → List AssetReading
  | variants readings => readings
  | _ => []

/-- Takes in an image set.  Only a fatal problem stops the audit. -/
def read (workspace : Workspace) (root group : String) : Except InventoryFailure GroupReading :=
  let directory := joinPaths root group
  match Manifest.read workspace directory with
  | .error problem =>
      if problem.isFatal then .error (.manifest problem) else .ok (.passedOver problem)
  | .ok scales =>
      match workspace.files.list workspace.directory directory with
      | .error failure => .ok (.unlisted failure)
      | .ok names => do
          let readings ← names.mapM (AssetReading.variant? workspace root group scales)
          return .variants readings.reduceOption

end GroupReading

/-- All images of a project with how they were taken in. -/
structure Inventory where
  /-- The images outside its catalogs, in the order of the tree. -/
  standalone : List AssetReading
  /-- The image sets by their directories. -/
  groups : List (String × GroupReading)

namespace Inventory

/-- Takes in the images of a project. -/
def read (workspace : Workspace) (tree : SourceTree) : Except InventoryFailure Inventory := do
  let standalone ← tree.imagePaths.mapM (AssetReading.standalone? workspace tree.root)
  let groups ← tree.catalogGroups.mapM fun group => do
    return (group, ← GroupReading.read workspace tree.root group)
  return ⟨standalone.reduceOption, groups⟩

def readings (inventory : Inventory) : List AssetReading :=
  inventory.standalone ++ inventory.groups.flatMap fun (_, group) => group.readings

/-- The images in ascending order of their paths. -/
def assets (inventory : Inventory) : List Asset :=
  (inventory.readings.map (·.asset)).mergeSort fun first second => first.path ≤ second.path

end Inventory

end AssetAudit
