import AssetAudit.FileName

namespace AssetAudit

/-! Text files of a project and what kind of source each is. -/

/-- What the literals of a text file mean.  A fallback file is searched for names only. -/
inductive Category where
  | swift
  | objectiveC
  | interfaceBuilder
  | propertyList
  | strings
  | fallback
deriving DecidableEq

namespace Category

def name : Category → String
  | swift => "swift"
  | objectiveC => "objc"
  | interfaceBuilder => "interface-builder"
  | propertyList => "plist"
  | strings => "strings"
  | fallback => "fallback"

/-- The kinds of source with patterns of their own. -/
def scanned : List Category := [swift, objectiveC, interfaceBuilder, propertyList, strings]

def extensions : Category → List String
  | swift => ["swift"]
  | objectiveC => ["m", "mm", "h"]
  | interfaceBuilder => ["storyboard", "xib"]
  | propertyList => ["plist"]
  | strings => ["strings"]
  | fallback => []

/-- Program code, whose literals a framework may look up with a resolution suffix. -/
def isCode : Category → Bool
  | swift | objectiveC => true
  | _ => false

/-- The category of a file by its name.  The fallback extensions are those of further text files
to search; a file with another extension is not read. -/
def ofFileName? (fallbackExtensions : List String) (fileName : String) : Option Category :=
  let extension := FileName.extension fileName
  match scanned.find? fun category => category.extensions.contains extension with
  | some category => some category
  | none => if fallbackExtensions.contains extension then some fallback else none

end Category

structure SourceFile where
  path : String
  category : Category
  text : String
deriving DecidableEq

end AssetAudit
