import AssetAudit.Files.TextFile
import AssetAudit.Json.Reader

namespace AssetAudit

/-! The manifest of an image set, which gives the scale of each of its files. -/

/-- Why an image set has no scales. -/
inductive ManifestProblem where
  | unreadable (failure : TextFailure)
  | malformed (error : Json.ReadError)
  | noImages
deriving DecidableEq

namespace ManifestProblem

/-- A whole number beyond the limit and a NUL in the path are not taken as faults of the one
manifest. -/
def isFatal : ManifestProblem → Bool
  | malformed (.tooManyDigits _) | unreadable (.access .embeddedNul) => true
  | _ => false

/-- The message about the manifest under its path. -/
def message (path : String) : ManifestProblem → String
  | unreadable failure => failure.message path
  | malformed error => error.message
  | noImages => "no \"images\" list"

end ManifestProblem

/-- File names with their scales, in the order in which the names first appear. -/
abbrev Manifest := List (String × Int)

namespace Manifest

def fileName : String := "Contents.json"

/-- The scales that a manifest may state. -/
def scaleOf? (text : String) : Option Int :=
  match Text.strip text.toList with
  | ['1', 'x'] => some 1
  | ['2', 'x'] => some 2
  | ['3', 'x'] => some 3
  | _ => none

/-- The scale of a record; without a statement it is one. -/
def recordScale? (record : Json.Value) : Option Int :=
  match record.member? "scale" with
  | none => some 1
  | some stated => stated.string?.bind scaleOf?

/-- The file and the scale of a well-formed record. -/
def record? (record : Json.Value) : Option (String × Int) := do
  let name ← (← record.member? "filename").string?
  guard (!name.isEmpty)
  return (name, ← recordScale? record)

/-- Takes in the well-formed records; the last one of a file counts. -/
def ofRecords (records : List Json.Value) : Manifest := KeyedList.ofList (records.filterMap record?)

def ofValue (value : Json.Value) : Except ManifestProblem Manifest :=
  match (value.member? "images").bind Json.Value.array? with
  | some records => .ok (ofRecords records)
  | none => .error .noImages

/-- Reads the manifest of an image set. -/
def read (workspace : Workspace) (group : String) : Except ManifestProblem Manifest :=
  match workspace.readText (joinPaths group fileName) with
  | .error failure => .error (.unreadable failure)
  | .ok text =>
      match Json.read text with
      | .error error => .error (.malformed error)
      | .ok value => ofValue value

end Manifest

end AssetAudit
