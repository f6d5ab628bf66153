import AssetAudit.Text.Integer
import AssetAudit.Text.Quoted

namespace AssetAudit.Image

/-! What can be wrong with the content of an image file. -/

inductive Failure where
  /-- The content is of no known format, or breaks the rules of its format. -/
  | unidentified
  /-- The file ends within a part of it. -/
  | truncatedFile
  /-- A chunk of this type is too short for what it has to hold. -/
  | truncatedChunk (type : String)
  /-- The same for a chunk of an animation. -/
  | truncatedAnimationChunk (type : String)
  /-- A compressed text or profile expands to more than is read. -/
  | expandsTooFar
  /-- All texts together have more characters than are kept. -/
  | tooMuchText (count : Nat)
  /-- The first picture of an animation is to be cleared, but its colours are not known. -/
  | unknownMode
  /-- The same, but its frame is not known. -/
  | noFrame
  | tooManyPixels (count : Nat)
  /-- A side of an animation is longer than any area can be. -/
  | sideOutOfRange
  | outOfMemory
  /-- Where the colour profile should be there is a text. -/
  | textAsProfile (isAnnotated : Bool)
deriving DecidableEq

namespace Failure

/-- Most failures are those of the one image; a fatal one ends all work. -/
def isFatal : Failure → Bool
  | sideOutOfRange | outOfMemory | textAsProfile _ => true
  | _ => false

/-- An image with more pixels is not read. -/
def mostPixels : Nat := 178956970

/-- The message about the file under its path. -/
def message (path : String) : Failure → String
  | unidentified => "cannot identify image file " ++ Text.quoted path
  | truncatedFile => "Truncated File Read"
  | truncatedChunk type => "Truncated " ++ type ++ " chunk"
  | truncatedAnimationChunk type => "APNG contains truncated " ++ type ++ " chunk"
  | expandsTooFar => "Decompressed data too large for PngImagePlugin.MAX_TEXT_CHUNK"
  | tooMuchText count =>
      "Too much memory used in text chunks: " ++ Text.decimal count ++ ">MAX_TEXT_MEMORY"
  | unknownMode => "unrecognized image mode"
  | noFrame => "not enough values to unpack (expected 4, got 0)"
  | tooManyPixels count =>
      "Image size (" ++ Text.decimal count ++ " pixels) exceeds limit of " ++
        Text.decimal mostPixels ++ " pixels, could be decompression bomb DOS attack."
  | sideOutOfRange => "signed integer is greater than maximum"
  | outOfMemory => ""
  | textAsProfile isAnnotated =>
      "a bytes-like object is required, not " ++
        Text.quoted (if isAnnotated then "iTXt" else "str")

end Failure

/-- An image with more pixels than are read is refused; a side counts at least one. -/
def checkPixels (width height : Nat) : Except Failure Unit :=
  let count := max 1 width * max 1 height
  if Failure.mostPixels < count then .error (.tooManyPixels count) else .ok ()

end AssetAudit.Image
