import AssetAudit.Literal.Found
import AssetAudit.Placeholder

namespace AssetAudit

/-! Plain references: literals without a placeholder, and the forms of a name that a reference
may stand for. -/

structure Reference where
  name : String
  file : String
  line : Nat
  rule : String
deriving DecidableEq

namespace Reference

/-- The reference that a literal makes, unless it is blank or templated. -/
def ofLiteral? (file : String) (literal : Literal) : Option Reference :=
  let name := String.ofList (Text.strip literal.text.toList)
  if name.isEmpty || hasPlaceholder name then none
  else some ⟨name, file, literal.line, literal.rule⟩

def ofSource (source : SourceFile) : List Reference :=
  (Literal.ofSource source).filterMap (ofLiteral? source.path)

/-- Extensions that a framework replaces when it looks for an image of higher resolution. -/
def resolutionExtensions : List String := [".png", ".jpg", ".jpeg"]

/-- A name without one of these extensions, in any mixture of cases. -/
def resolutionBase (name : String) : String :=
  match resolutionExtensions.find? fun ext =>
    ext.toList.isSuffixOf (Text.lower name.toList) with
  | some ext => String.ofList (name.toList.take (name.toList.length - ext.toList.length))
  | none => name

/-- The names under which a framework may look for an image, with each resolution suffix and
without one. -/
def resolutionVariants (suffixes : List String) (name : String) : List String :=
  let base := resolutionBase name
  ("" :: suffixes).flatMap fun suffix =>
    [base ++ suffix, base ++ suffix ++ ".png", base ++ suffix ++ ".jpg"]

/-- Is the file program code by its name? -/
def inCode (reference : Reference) : Bool :=
  (Category.ofFileName? [] reference.file).any Category.isCode

/-- The names that a reference may stand for. -/
def names (suffixes : List String) (reference : Reference) : List String :=
  [reference.name, FileName.withoutImageExtension reference.name] ++
    if reference.inCode then resolutionVariants suffixes reference.name else []

end Reference

end AssetAudit
