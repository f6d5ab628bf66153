import AssetAudit.Json.Value
import AssetAudit.Text.Integer

namespace AssetAudit

/-! Images of a project. -/

inductive AssetKind where
  | png
  | jpeg
  | pdf
  | svg
  /-- One scale of an image set in an asset catalog. -/
  | catalogVariant
deriving DecidableEq

def AssetKind.name : AssetKind → String
  | png => "png"
  | jpeg => "jpeg"
  | pdf => "pdf"
  | svg => "svg"
  | catalogVariant => "catalog-variant"

structure Asset where
  /-- The name by which code refers to the image. -/
  name : String
  /-- The path from the root of the project. -/
  path : String
  byteSize : Int
  kind : AssetKind
  /-- The container format that the file name announces. -/
  fileFormat : String
  scale : Option Int
  /-- Width and height in pixels. -/
  dimensions : Option (Int × Int)
  isInterlaced : Option Bool
  colorProfile : Option String
  /-- The directory of the image set. -/
  catalogGroup : Option String
deriving DecidableEq

namespace Asset

def isCatalogVariant (asset : Asset) : Bool := asset.kind = .catalogVariant

def pixelArea (asset : Asset) : Option Int :=
  asset.dimensions.map fun (width, height) => width * height

/-- How a report names the kind: variants are told apart by their scale. -/
def kindLabel (asset : Asset) : String :=
  if asset.isCatalogVariant then
    "catalog-variant-" ++ ((asset.scale.map Text.decimal).getD "None") ++ "x"
  else asset.kind.name

def toValue (asset : Asset) : Json.Value := .object [
  ("name", .string asset.name),
  ("path", .string asset.path),
  ("size", .int asset.byteSize),
  ("type", .string asset.kindLabel),
  ("format", .string asset.fileFormat),
  ("scale", .optional (asset.scale.map .int)),
  ("dimensions", .optional (asset.dimensions.map fun (width, height) =>
    .array [.int width, .int height])),
  ("interlaced", .optional (asset.isInterlaced.map .bool)),
  ("color_profile", .optional (asset.colorProfile.map .string))]

end Asset

end AssetAudit
