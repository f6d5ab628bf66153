import AssetAudit.Binding.Collect
import AssetAudit.Config
import AssetAudit.DynamicLookup
import AssetAudit.Project.Inventory
import AssetAudit.Reference
import AssetAudit.Resolution

namespace AssetAudit

/-! Everything that an audit reads from the disk, and what the sources say. -/

/-- What one source contributes to the question which images are used. -/
structure SourceScan where
  references : List Reference
  bindings : List Binding
  templates : List TemplateUse
  dynamicLookups : List DynamicLookup

def SourceScan.of (source : SourceFile) : SourceScan :=
  let literals := Literal.ofSource source
  { references := literals.filterMap (Reference.ofLiteral? source.path)
    bindings := Binding.ofSource source
    templates := literals.filterMap (TemplateUse.ofLiteral? source.path)
    dynamicLookups := DynamicLookup.ofSource source }

/-- What all sources contribute, taken together. -/
structure Extraction where
  references : List Reference
  templates : List TemplateUse
  table : BindingTable
  dynamicLookups : List DynamicLookup

def Extraction.ofScans (scans : List SourceScan) : Extraction where
  references := scans.flatMap (·.references)
  templates := scans.flatMap (·.templates)
  table := .ofList (scans.flatMap (·.bindings))
  dynamicLookups := scans.flatMap (·.dynamicLookups)

structure Survey where
  tree : SourceTree
  inventory : Inventory
  /-- Each text file with what reading it gave. -/
  readings : List (String × Except TextFailure SourceFile)

/-- Why a project cannot be surveyed. -/
inductive SurveyFailure where
  | scan (failure : ScanFailure)
  | inventory (failure : InventoryFailure)
deriving DecidableEq

def SurveyFailure.message : SurveyFailure → String
  | scan failure => failure.message
  | inventory failure => failure.message

namespace Survey

/-- Text files in ascending order of their paths. -/
def sortedTexts (texts : List (String × Category)) : List (String × Category) :=
  texts.mergeSort fun first second => first.1 ≤ second.1

def readTexts (workspace : Workspace) (tree : SourceTree) :
    List (String × Except TextFailure SourceFile) :=
  (sortedTexts tree.textPaths).map fun (path, category) =>
    (path, readSource workspace tree.root path category)

/-- Reads a project: its tree, its images and its text files. -/
def read (workspace : Workspace) (root : String) (fallbackExtensions : List String) :
    Except SurveyFailure Survey := do
  let tree ← (SourceTree.scan workspace root fallbackExtensions).mapError .scan
  let inventory ← (Inventory.read workspace tree).mapError .inventory
  return ⟨tree, inventory, readTexts workspace tree⟩

def assets (survey : Survey) : List Asset := survey.inventory.assets

def sources (survey : Survey) : List SourceFile :=
  survey.readings.filterMap fun (_, reading) => reading.toOption

/-- The text files that could not be read. -/
def skipped (survey : Survey) : List SkippedFile :=
  survey.readings.filterMap fun (path, reading) =>
    match reading with
    | .error failure => some ⟨path, skipReason failure⟩
    | .ok _ => none

def extraction (survey : Survey) : Extraction := .ofScans (survey.sources.map SourceScan.of)

end Survey

end AssetAudit
