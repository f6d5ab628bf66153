import AssetAudit.FormatCall
import AssetAudit.Source

namespace AssetAudit

/-! What an access pattern captures, and when a captured text counts as the name of an image. -/

/-- What the captures of an access pattern stand for. -/
inductive CaptureKind where
  /-- The capture is a name. -/
  | name
  /-- Each capture is a name if it looks like that of an image. -/
  | likelyImage
  /-- The captures are a format string and its arguments. -/
  | formatCall
deriving DecidableEq

/-- A way in which sources of one category refer to an image. -/
structure AccessRule where
  name : String
  pattern : Pattern
  kind : CaptureKind

/-- Words that occur in the names of images. -/
def imageWords : List String := ["icon", "image", "logo", "button", "background"]

/-- A text with a typical word in it, or with the extension of an image at its end. -/
def isLikelyImage (text : String) : Bool :=
  let lowered := Text.lower text.toList
  imageWords.any (fun word => Text.occursIn word.toList lowered) ||
    FileName.imageExtensions.any fun ext => ('.' :: ext.toList).isSuffixOf lowered

namespace AccessRule

/-- The names that one match of the rule yields. -/
def names (rule : AccessRule) (found : Match) : List String :=
  match rule.kind with
  | .name => [found.capturedText 0]
  | .likelyImage =>
      (found.captures.map fun capture => String.ofList capture.chars).filter fun text =>
        !text.isEmpty && isLikelyImage text
  | .formatCall =>
      (FormatCall.template? (found.capturedText 0) (found.capturedText 1)).toList

end AccessRule

end AssetAudit
