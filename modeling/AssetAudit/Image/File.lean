import AssetAudit.Image.Jpeg
import AssetAudit.Image.Png

namespace AssetAudit.Image

/-! Image files.  The content decides what a file is, whatever its name says. -/

/-- The header of a file. -/
def header (bytes : List UInt8) : Except Failure Header :=
  if Png.signature.isPrefixOf bytes then Png.header bytes
  else if Jpeg.signature.isPrefixOf bytes then Jpeg.header bytes
  else .error .unidentified

/-- Dimensions and colour profile of an image. -/
structure Metadata where
  dimensions : Int × Int
  profile : String
deriving DecidableEq

def Metadata.ofBytes (bytes : List UInt8) : Except Failure Metadata := do
  let header ← header bytes
  checkPixels header.width header.height
  return ⟨(header.width, header.height), ← header.profileName⟩

end AssetAudit.Image
