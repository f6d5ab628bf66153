import AssetAudit.Asset
import AssetAudit.DynamicLookup
import AssetAudit.Reference
import AssetAudit.Resolution

namespace AssetAudit

/-! Which images are used.  An image counts as used when one of its names is among those that
the sources refer to, or when its name occurs anywhere in a text file.  Images that build tools
consume are exempt. -/

/-- Why an image is never reported. -/
inductive Exemption where
  | test
  | watch
  | system
deriving DecidableEq

def Exemption.reason : Exemption → String
  | test => "test/snapshot reference image"
  | watch => "watch companion image"
  | system => "system-managed asset"

/-- Does one of the marks occur in the text? -/
def bearsMark (marks : List String) (text : List Char) : Bool :=
  marks.any fun mark => Text.occursIn mark.toList text

def testPathMarks : List String := ["referenceimages", "tests/", "test/", "snapshot"]

def testNameMarks : List String := ["test", "snapshot"]

def watchMarks : List String :=
  ["watch extension", "watchkit", "complication", ".watchapp/", "watch app"]

def systemMarks : List String :=
  ["appicon.appiconset", "appicon.solidimagestack", "launchimage.launchimage",
    ".solidimagestacklayer", "assets.car"]

/-- The exemption of an image by its path and name, which are read without case. -/
def Asset.exemption? (asset : Asset) : Option Exemption :=
  let path := Text.lower asset.path.toList
  let name := Text.lower asset.name.toList
  if bearsMark testPathMarks path || bearsMark testNameMarks name then some .test
  else if bearsMark watchMarks path then some .watch
  else if bearsMark systemMarks path || bearsMark ["appicon"] path && bearsMark [".imageset"] path
  then some .system
  else none

/-- A name without the marks of one scale, such as `@2x`. -/
def withoutScaleMark (digit : Char) : List Char → List Char
  | '@' :: c :: 'x' :: rest =>
      if c = digit then withoutScaleMark digit rest
      else '@' :: withoutScaleMark digit (c :: 'x' :: rest)
  | c :: rest => c :: withoutScaleMark digit rest
  | [] => []

/-- A name without the marks of the scales two and three. -/
def scaleFreeName (name : List Char) : List Char :=
  withoutScaleMark '3' (withoutScaleMark '2' name)

/-- The name of an image set by its directory. -/
def groupName (group : String) : List Char :=
  Text.beforeLast '.' (Text.afterLast '/' group.toList)

/-- The names of an image as written in sources, before case is considered. -/
def Asset.plainNames (asset : Asset) : List (List Char) :=
  let name := asset.name.toList
  let base := scaleFreeName name
  [name, Text.beforeFirst '.' name, base, base ++ "@2x".toList, base ++ "@3x".toList] ++
    match asset.catalogGroup with
    | some group => if group.isEmpty then [] else [groupName group]
    | none => []

/-- All names by which sources may refer to an image. -/
def Asset.usageNames (asset : Asset) : List String :=
  (asset.plainNames ++ asset.plainNames.map Text.lower ++ [Text.upper asset.name.toList]).map
    String.ofList

/-- The names that the sources refer to, in ascending order. -/
def usedNames (references : List Reference) (templates : List Template) (table : BindingTable)
    (bundleImages : List String) (config : Config) : List String :=
  Text.sortedSet (references.flatMap (·.names config.hdSuffixes) ++
    templates.flatMap (·.candidates table config) ++ bundleImages)

/-- Does the name occur anywhere in a text file? -/
def occursInSources (sources : List SourceFile) (name : String) : Bool :=
  sources.any fun source => Text.occursIn name.toList source.text.toList

/-- Do the sources refer to none of the names of this image? -/
def Asset.isUnmatched (usedNames : List String) (asset : Asset) : Bool :=
  asset.exemption?.isNone && !asset.usageNames.any usedNames.contains

structure Usage where
  usedNames : List String
  unused : List Asset
  /-- The exempt images, each with the reason. -/
  exempt : List (Asset × String)
  dynamicLookups : List DynamicLookup

/-- Sorts the images into exempt, unused and used ones, in their order.  The names that no source
refers to are searched for in the texts all at once, and then each image is put to the outcome for
its name. -/
def Usage.of (assets : List Asset) (usedNames : List String) (sources : List SourceFile)
    (dynamicLookups : List DynamicLookup) : Usage where
  usedNames := usedNames
  unused :=
    let unmatched := assets.filter (·.isUnmatched usedNames)
    let names := unmatched.map (·.name)
    let hits := names.map fun name => occursInSources sources name
    ((unmatched.zip hits).filter fun (_, hit) => !hit).map (·.1)
  exempt := assets.filterMap fun asset =>
    asset.exemption?.map fun exemption => (asset, exemption.reason)
  dynamicLookups := dynamicLookups

/-- Every image is put to its own outcome. -/
theorem filter_zip_hits (hit : Asset → Bool) (assets : List Asset) :
    ((assets.zip (assets.map hit)).filter fun (_, hit) => !hit).map (·.1) =
      assets.filter fun asset => !hit asset := by
  induction assets with
  | nil => rfl
  | cons asset rest ih =>
      rw [List.map_cons, List.zip_cons_cons, List.filter_cons, List.filter_cons, ← ih]
      cases hit asset with
      | false => rfl
      | true => rfl

theorem Usage.unused_of (assets : List Asset) (usedNames : List String)
    (sources : List SourceFile) (dynamicLookups : List DynamicLookup) :
    (Usage.of assets usedNames sources dynamicLookups).unused =
      assets.filter fun asset =>
        asset.isUnmatched usedNames && !occursInSources sources asset.name := by
  simp only [Usage.of, List.map_map, Function.comp_def,
    filter_zip_hits fun asset => occursInSources sources asset.name, List.filter_filter,
    Bool.and_comm]

theorem Usage.mem_of_unused {assets : List Asset} {usedNames : List String}
    {sources : List SourceFile} {dynamicLookups : List DynamicLookup} {asset : Asset}
    (unused : asset ∈ (Usage.of assets usedNames sources dynamicLookups).unused) :
    asset ∈ assets := by
  rw [Usage.unused_of] at unused
  exact (List.mem_filter.mp unused).1

end AssetAudit
