import AssetAudit.Binding.Table
import AssetAudit.Literal.Table

namespace AssetAudit

/-! The bindings that a source states: constants, arrays of texts, and cases with a raw value. -/

/-- What the second capture of a binding pattern holds. -/
inductive BindingShape where
  /-- One text. -/
  | text
  /-- The inside of an array of texts. -/
  | array
deriving DecidableEq

/-- A way in which sources bind the name in the first capture. -/
structure BindingRule where
  name : String
  pattern : Pattern
  shape : BindingShape

namespace BindingRule

/-- A text in double quotes on one line, which may be empty. -/
def quotedLine : Pattern :=
  .sequence ["\"", .capture (.run fun c => c ≠ '"' && c ≠ '\n'), "\""]

/-- The inside of an array. -/
def arrayInside : Pattern := .sequence ["[", .capture (.run (· ≠ ']')), "]"]

/-- The keyword of a constant or a variable and its name. -/
def declared : Pattern :=
  .sequence [.choice ["let", "var"], .someBlanks, .capture .word, .blanks]

/-- The name of a pointer that may be constant. -/
def pointer : Pattern :=
  .sequence ["*", .blanks, .optional (.seq "const" .someBlanks), .capture .word, .blanks, "=",
    .blanks]

def swift : List BindingRule := [
  ⟨"swift-array",
    .sequence [declared, .optional (.sequence [":", .blanks, "[String]", .blanks]), "=", .blanks,
      arrayInside], .array⟩,
  ⟨"swift-typed-string",
    .sequence [declared, ":", .blanks, "String", .blanks, "=",
      .run fun c => c ≠ '\n' && c ≠ '"', quotedLine], .text⟩,
  ⟨"swift-string", .sequence [declared, "=", .blanks, quotedLine], .text⟩,
  ⟨"swift-enum-case",
    .sequence ["case", .someBlanks, .capture .word, .blanks, "=", .blanks, quotedLine], .text⟩]

def objectiveC : List BindingRule := [
  ⟨"objc-array",
    .sequence ["NSArray", .blanks, .optional (.sequence ["<", .run (· ≠ '>'), ">", .blanks]),
      pointer, "@", arrayInside], .array⟩,
  ⟨"objc-nsstring", .sequence ["NSString", .blanks, pointer, "@", quotedLine], .text⟩,
  ⟨"objc-define",
    .sequence ["#define", .someBlanks, .capture .word, .someBlanks, "@", quotedLine], .text⟩]

/-- The binding patterns of a category. -/
def ofCategory : Category → List BindingRule
  | .swift => swift
  | .objectiveC => objectiveC
  | _ => []

/-- An element of an array: a text in double quotes, in which a backslash takes the next
character with it. -/
def element : Pattern :=
  .sequence [.optional "@", "\"",
    .capture (.many (.either (.char fun c => c ≠ '"' && c ≠ '\\' && c ≠ '\n')
      (.seq "\\" (.char (· ≠ '\n'))))),
    "\""]

/-- The values in the second capture; an empty text is none. -/
def values (shape : BindingShape) (raw : List Char) : List String :=
  let texts : List (List Char) :=
    match shape with
    | .text => [raw]
    | .array => (element.findAll raw).map fun found => found.captured 0
  (texts.filter fun text => !text.isEmpty).map String.ofList

end BindingRule

/-- One value of a name, with the offset of the match that gave it. -/
structure BoundValue where
  offset : Nat
  identifier : String
  value : String
deriving DecidableEq

namespace BoundValue

def ofRule (text : List Char) (rule : BindingRule) : List BoundValue :=
  (rule.pattern.findAll text).flatMap fun found =>
    (BindingRule.values rule.shape (found.captured 1)).map fun value =>
      ⟨found.offset, found.capturedText 0, value⟩

/-- The bound values of a source in the order of their matches. -/
def ofSource (source : SourceFile) : List BoundValue :=
  let found := (BindingRule.ofCategory source.category).flatMap (ofRule source.text.toList)
  found.mergeSort fun first second => first.offset ≤ second.offset

def toBinding (bound : BoundValue) : Binding := ⟨bound.identifier, [bound.value]⟩

end BoundValue

/-- The bindings of one source, one for each name. -/
def Binding.ofSource (source : SourceFile) : List Binding :=
  (BindingTable.ofList ((BoundValue.ofSource source).map BoundValue.toBinding)).entries

end AssetAudit
