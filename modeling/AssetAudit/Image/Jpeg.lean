import AssetAudit.Image.Metadata
import AssetAudit.Image.TagDirectory

namespace AssetAudit.Image.Jpeg

/-! Headers of JPEG files.  A file is a series of segments behind two-byte marks; everything up
to the start of the first scan is read. -/

def signature : List UInt8 := [0xFF, 0xD8, 0xFF]

/-- Marks of segments that give the sizes of the image, by their second byte. -/
def frameMarks : List UInt8 :=
  [0xC0, 0xC1, 0xC2, 0xC3, 0xC5, 0xC6, 0xC7, 0xC9, 0xCA, 0xCB, 0xCD, 0xCE, 0xCF, 0xDE]

def scanMark : UInt8 := 0xDA

/-- A mark with nothing behind it that belongs to it. -/
def standsAlone (mark : UInt8) : Bool :=
  mark = 0xC8 || (0xD0 ≤ mark && mark ≤ 0xD9) || (0xF0 ≤ mark && mark ≤ 0xFD)

/-- What the segments so far have said.  The pieces of a profile are kept whole. -/
structure Progress where
  frame : Option (Nat × Nat × ColorModel)
  pieces : List (List UInt8)
  profile : Option (List UInt8)
  /-- Is the density of the pixels known? -/
  hasDensity : Bool
  /-- What the camera wrote about the picture. -/
  camera : Option (List UInt8)
  /-- The list of the pictures in the file. -/
  pictures : Option (List UInt8)

def Progress.start : Progress := ⟨none, [], none, false, none, none⟩

/-- The beginning of segments with pieces of a colour profile. -/
def pieceLabel : List UInt8 := ascii "ICC_PROFILE" ++ [0]

/-- The beginning of segments with what the camera wrote. -/
def cameraLabel : List UInt8 := ascii "Exif" ++ [0, 0]

/-- The beginning of segments with the list of pictures. -/
def picturesLabel : List UInt8 := ascii "MPF" ++ [0]

/-- The beginning of segments with resources of an image editor. -/
def resourcesLabel : List UInt8 := ascii "Photoshop 3.0" ++ [0]

/-- Is the first piece not behind the second, byte by byte? -/
def notBehind : List UInt8 → List UInt8 → Bool
  | [], _ => true
  | _ :: _, [] => false
  | a :: rest, b :: others => a < b || (a = b && notBehind rest others)

/-- The pieces in the order of their numbers joined, if they are as many as the first says. -/
def joinPieces? (pieces : List (List UInt8)) : Option (Option (List UInt8)) :=
  match pieces.mergeSort notBehind with
  | [] => some none
  | first :: rest => do
      let total ← first[13]?
      if total.toNat = pieces.length then return some ((first :: rest).flatMap (·.drop 14))
      else return none

def colorModel? (components : Nat) : Option ColorModel :=
  match components with
  | 1 => some .gray
  | 3 => some .rgb
  | 4 => some .cmyk
  | _ => none

/-- Takes in the segment with the sizes.  The pieces of a profile before it count. -/
def Progress.withFrame? (progress : Progress) (data : List UInt8) : Option Progress := do
  let precision ← field? data 0 1
  let height ← field? data 1 2
  let width ← field? data 3 2
  let components ← field? data 5 1
  guard (precision = 8 ∧ (data.length - 6) % 3 = 0)
  let model ← colorModel? components
  let profile ←
    if progress.pieces.isEmpty then some progress.profile else joinPieces? progress.pieces
  return { progress with frame := some (width, height, model), pieces := [], profile }

/-- Are these whole tables of 64 numbers of one or two bytes, each behind a byte that tells
which? -/
def areTables : Nat → List UInt8 → Bool
  | _, [] => true
  | 0, _ => false
  | fuel + 1, first :: rest =>
      let size := if first < 16 then 64 else 128
      size ≤ rest.length && areTables fuel (rest.drop size)

/-- Takes in the segment that starts a file of the usual kind. -/
def Progress.withDensity? (progress : Progress) (data : List UInt8) : Option Progress :=
  if data.length < 7 then none
  else
    some { progress with
      hasDensity := progress.hasDensity ||
        (12 ≤ data.length && (field? data 7 1 = some 1 || field? data 7 1 = some 2)) }

/-- An offset that is even, or else the next one. -/
def evened (offset : Nat) : Nat := offset + offset % 2

/-- Can the resources from an offset on be read?  They are read up to one that is cut off, but
each must have the length of its name. -/
def areResources (data : List UInt8) : Nat → Nat → Bool
  | 0, _ => true
  | fuel + 1, offset =>
      if !(ascii "8BIM").isPrefixOf (data.drop offset) then true
      else
        match field? data (offset + 4) 2, field? data (offset + 6) 1 with
        | none, _ => true
        | _, none => false
        | some code, some nameLength =>
            let behindName := evened (offset + 7 + nameLength)
            match field? data behindName 4 with
            | none => true
            | some size =>
                let content := (data.drop (behindName + 4)).take size
                if code = 0x03ED && content.length < 14 then true
                else areResources data fuel (evened (behindName + 4 + size))

/-- Takes in what the camera wrote; it may go on in further segments. -/
def Progress.withCamera (progress : Progress) (data : List UInt8) : Progress :=
  match progress.camera with
  | some before => { progress with camera := some (before ++ data.drop 6) }
  | none => { progress with camera := some data }

/-- Takes in the data of a segment; most of them say nothing. -/
def Progress.add? (progress : Progress) (mark : UInt8) (data : List UInt8) : Option Progress :=
  if frameMarks.contains mark then progress.withFrame? data
  else if mark = 0xDB then
    if areTables data.length data then some progress else none
  else if mark = 0xE0 && (ascii "JFIF").isPrefixOf data then progress.withDensity? data
  else if mark = 0xE1 && cameraLabel.isPrefixOf data then some (progress.withCamera data)
  else if mark = 0xE2 && pieceLabel.isPrefixOf data then
    some { progress with pieces := progress.pieces ++ [data] }
  else if mark = 0xE2 && picturesLabel.isPrefixOf data then
    some { progress with pictures := some (data.drop 4) }
  else if mark = 0xED && resourcesLabel.isPrefixOf data then
    if areResources data data.length 14 then some progress else none
  else if mark = 0xEE && (ascii "Adobe").isPrefixOf data then
    if data.length < 7 then none else some progress
  else some progress

/-- The data of a segment behind its length, which counts its own two bytes. -/
def segment (bytes : List UInt8) : Except Failure (List UInt8 × List UInt8) := do
  let some (length, rest) := takeBytes? 2 bytes | throw .unidentified
  let some found := takeBytes? (bigEndian length - 2) rest | throw .truncatedFile
  return found

/-- Reads segments from behind a byte `0xFF` on, up to the start of a scan or the end of the file.
Bytes that are no mark are passed over. -/
def readSegments : Nat → Progress → List UInt8 → Except Failure Progress
  | 0, _, _ | _, _, [] => .error .unidentified
  | fuel + 1, progress, mark :: rest =>
      if mark = 0xFF then readSegments fuel progress rest
      else if mark = 0 || standsAlone mark then toNextMark fuel progress rest
      else if mark < 0xC0 then .error .unidentified
      else do
        let (data, behind) ← segment rest
        let some next := progress.add? mark data | throw .unidentified
        if mark = scanMark then return next else toNextMark fuel next behind
where
  toNextMark (fuel : Nat) (progress : Progress) (bytes : List UInt8) : Except Failure Progress :=
    match bytes.dropWhile (· ≠ 0xFF) with
    | [] => .ok progress
    | _ :: rest => readSegments fuel progress rest

/-- What the camera wrote without the labels in front. -/
def withoutLabels : Nat → List UInt8 → List UInt8
  | 0, data => data
  | fuel + 1, data =>
      if cameraLabel.isPrefixOf data then withoutLabels fuel (data.drop 6) else data

/-- The tag of the unit in which the camera gives the density. -/
def densityUnitTag : Nat := 0x0128

/-- The tag of the density across. -/
def densityTag : Nat := 0x011A

/-- The density should be a fraction.  Of anything with single parts the first two are taken, so
bytes or a text must not end before the second. -/
def isDensity (value : TaggedValue) : Bool :=
  match value.bytes?, value.text? with
  | some bytes, _ => bytes.length ≠ 1
  | _, some [] => false
  | _, some [digit] => !(0x30 ≤ digit && digit ≤ 0x39)
  | _, _ => true

/-- Can the density be taken from what the camera wrote?  Where the camera gives none, another one
is taken. -/
def hasReadableDensity (progress : Progress) : Bool :=
  progress.hasDensity ||
    match progress.camera.bind fun data =>
        TagDirectory.ofBytes? (withoutLabels data.length data) with
    | none => true
    | some directory =>
        (directory.value? densityUnitTag).isNone ||
          ((directory.value? densityTag).map isDensity).getD true

/-- The tag of the number of pictures in a file. -/
def pictureCountTag : Nat := 0xB001

/-- The tag of their list. -/
def pictureListTag : Nat := 0xB002

/-- Is the list long enough?  An entry of a form other than the usual one ends it. -/
def isPictureList (order : ByteOrder) : Nat → List UInt8 → Bool
  | 0, _ => true
  | count + 1, bytes =>
      match takeBytes? 16 bytes with
      | none => false
      | some (entry, rest) =>
          order.number (entry.take 4) / 0x1000000 % 8 ≠ 0 || isPictureList order count rest

/-- Can the list of pictures be read as far as it goes? -/
def hasReadablePictures (progress : Progress) : Bool :=
  match progress.pictures with
  | none => true
  | some data =>
      match TagDirectory.ofBytes? data with
      | none => true
      | some directory =>
          let order := if [0x4D, 0x4D, 0x00, 0x2A].isPrefixOf data then .bigEnd else .littleEnd
          match (directory.value? pictureCountTag).bind (·.integer? directory.order),
              (directory.value? pictureListTag).bind (·.bytes?) with
          | some count, some bytes => isPictureList order (min count.toNat (bytes.length + 1)) bytes
          | _, _ => true

/-- The header of a JPEG file. -/
def header (bytes : List UInt8) : Except Failure Header := do
  let progress ← readSegments (bytes.length + 1) .start (bytes.drop 3)
  let some (width, height, model) := progress.frame | throw .unidentified
  if width = 0 || height = 0 || !hasReadableDensity progress || !hasReadablePictures progress then
    throw .unidentified
  return ⟨width, height, model, .ofBytes? progress.profile, false⟩

end AssetAudit.Image.Jpeg
