import AssetAudit.Text.Casing
import AssetAudit.Text.Search

namespace AssetAudit.FileName

/-! File names and their extensions.  Leading dots of a name never start an extension. -/

/-- A path cut in front of the last dot of its last part, if a character other than a dot stands
before that dot in the part. -/
def splitExtension (path : List Char) : List Char × List Char :=
  let name := Text.afterLast '/' path
  let stem := Text.beforeLast '.' name
  if name.contains '.' && stem.any (· ≠ '.') then
    path.splitAt (path.length - (name.length - stem.length))
  else
    (path, [])

/-- The extension in small letters, without its dot. -/
def extension (path : String) : String :=
  String.ofList (Text.lower ((splitExtension path.toList).2.drop 1))

/-- The path without its extension. -/
def stem (path : String) : String := String.ofList (splitExtension path.toList).1

/-- The last part of a path. -/
def last (path : String) : String := String.ofList (Text.afterLast '/' path.toList)

/-- Extensions that mark an image in a text. -/
def imageExtensions : List String := ["png", "jpg", "jpeg", "gif", "svg", "pdf"]

/-- A name without its image extension; a name with another one or none stays whole. -/
def withoutImageExtension (name : String) : String :=
  if (stem name).isEmpty || !imageExtensions.contains (extension name) then name else stem name

end AssetAudit.FileName
