import AssetAudit.Image.Failure
import AssetAudit.Image.ProfileDescription

namespace AssetAudit.Image

/-! What an image file says about itself. -/

inductive ColorModel where
  | gray
  | rgb
  | cmyk
deriving DecidableEq

def ColorModel.name : ColorModel → String
  | gray => "Gray"
  | rgb => "RGB"
  | cmyk => "CMYK"

/-- What an image holds in the place of its colour profile. -/
inductive EmbeddedProfile where
  | absent
  | data (bytes : List UInt8)
  /-- A text that is not empty. -/
  | text (isAnnotated : Bool)
deriving DecidableEq

def EmbeddedProfile.ofBytes? (bytes? : Option (List UInt8)) : EmbeddedProfile :=
  match bytes? with
  | some bytes => data bytes
  | none => absent

/-- What the header of an image holds. -/
structure Header where
  width : Nat
  height : Nat
  model : ColorModel
  profile : EmbeddedProfile
  /-- Does the image claim the standard colour space? -/
  isStandardRgb : Bool

/-- The name of an image without a named profile: the standard colour space or the colour
model. -/
def Header.spaceName (header : Header) : String :=
  if header.isStandardRgb then "sRGB" else header.model.name

/-- The colour profile as a report names it. -/
def Header.profileName (header : Header) : Except Failure String :=
  match header.profile with
  | .absent => .ok header.spaceName
  | .data bytes => .ok ((Profile.description? bytes).getD header.spaceName)
  | .text isAnnotated => .error (.textAsProfile isAnnotated)

end AssetAudit.Image
