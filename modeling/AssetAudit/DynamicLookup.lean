import AssetAudit.Literal.Table
import AssetAudit.Text.Lines

namespace AssetAudit

/-! Lines of program code that look an image up by a name computed when the program runs. -/

structure DynamicLookup where
  file : String
  line : Nat
  description : String
  snippet : String
deriving DecidableEq

namespace DynamicLookup

open AccessRule (call)

/-- An ASCII identifier. -/
def identifier : Pattern := .seq (.char Text.isNameStart) (.run Text.isNamePart)

/-- A string in double quotes with a placeholder in it. -/
def interpolated : Pattern :=
  .sequence ["\"", .run (· ≠ '"'), "\\(", .someOf (· ≠ ')'), ")", .run (· ≠ '"'), "\""]

/-- A call with anything but a closing parenthesis in it. -/
def calledName : Pattern := .sequence [.word, .blanks, "(", .run (· ≠ ')'), ")"]

def subscriptedName : Pattern := .sequence [.word, .blanks, "[", .someOf (· ≠ ']'), "]"]

def propertyName : Pattern := .sequence [.word, ".", .word]

/-- The construction of a view image from what `argument` matches. -/
def imageOf (argument : List Pattern) : Pattern :=
  .sequence ([.boundary, call "Image"] ++ argument)

/-- The construction of an image by the name that `argument` matches. -/
def namedImageOf (argument : List Pattern) : Pattern :=
  .sequence ([call "UIImage", "named:", .blanks] ++ argument)

/-- The construction of a sprite from what `argument` matches. -/
def spriteOf (argument : List Pattern) : Pattern :=
  .sequence ("spriteWithFile:" :: .blanks :: argument)

/-- The forms of such a lookup, each with what it is called in a report. -/
def forms : List (Pattern × String) := [
  (imageOf [interpolated], "String interpolation in Image()"),
  (namedImageOf [interpolated], "String interpolation in UIImage(named:)"),
  (spriteOf [.optional "@", interpolated], "String interpolation in spriteWithFile:"),
  (imageOf [identifier, .blanks, ")"], "Variable-based Image loading"),
  (namedImageOf [identifier, .blanks, ")"], "Variable-based UIImage loading"),
  (.sequence ["[UIImage", .someBlanks, "imageNamed:", .blanks, identifier, .blanks, "]"],
    "Variable-based imageNamed: loading"),
  (spriteOf [identifier, .boundary], "Variable-based spriteWithFile: loading"),
  (imageOf [calledName, .blanks, ")"], "Function-generated Image name"),
  (namedImageOf [calledName, .blanks, ")"], "Function-generated UIImage name"),
  (spriteOf [calledName], "Function-generated spriteWithFile: name"),
  (imageOf [subscriptedName, .blanks, ")"], "Subscript-based Image selection"),
  (namedImageOf [subscriptedName, .blanks, ")"], "Subscript-based UIImage selection"),
  (imageOf [propertyName, .blanks, ")"], "Property-based Image loading"),
  (namedImageOf [propertyName, .blanks, ")"], "Property-based UIImage loading")]

/-- The lookups on one line, one for each form that occurs there. -/
def ofLine (file : String) (number : Nat) (line : List Char) : List DynamicLookup :=
  (forms.filter fun (pattern, _) => pattern.occurs line).map fun (_, description) =>
    ⟨file, number, description, String.ofList (Text.strip line)⟩

/-- The lookups on lines that are numbered from `number` on. -/
def ofLines (file : String) (number : Nat) : List (List Char) → List DynamicLookup
  | [] => []
  | line :: rest => ofLine file number line ++ ofLines file (number + 1) rest

/-- The lookups of a source, line by line; only program code has any. -/
def ofSource (source : SourceFile) : List DynamicLookup :=
  if source.category.isCode then
    ofLines source.path 1 (Text.splitLines source.text.toList)
  else []

end DynamicLookup

end AssetAudit
