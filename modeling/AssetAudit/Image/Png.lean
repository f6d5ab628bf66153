import AssetAudit.Image.Inflate
import AssetAudit.Image.Metadata
import AssetAudit.KeyedList
import AssetAudit.Text.Utf8
import AssetAudit.Text.Word

namespace AssetAudit.Image.Png

/-! Headers of PNG files.  A file is a signature and a series of chunks, each with a length, a
type, data and a check sum.  Everything up to the first data of pixels is read. -/

def signature : List UInt8 := [0x89, 0x50, 0x4E, 0x47, 0x0D, 0x0A, 0x1A, 0x0A]

/-- How the pixels are written. -/
inductive Mode where
  | gray
  | grayAlpha
  | color
  | palette
  | colorAlpha
deriving DecidableEq

namespace Mode

/-- The mode for a bit depth and a colour type.  Deep gray pixels with transparency are kept as
coloured ones. -/
def ofPair? (depth colorType : Nat) : Option Mode :=
  match colorType with
  | 0 => if depth ∈ [1, 2, 4, 8, 16] then some gray else none
  | 2 => if depth ∈ [8, 16] then some color else none
  | 3 => if depth ∈ [1, 2, 4, 8] then some palette else none
  | 4 => if depth = 8 then some grayAlpha else if depth = 16 then some colorAlpha else none
  | 6 => if depth ∈ [8, 16] then some colorAlpha else none
  | _ => none

def model : Mode → ColorModel
  | gray | grayAlpha => .gray
  | color | palette | colorAlpha => .rgb

/-- How many bytes name the transparent colour. -/
def transparentBytes : Mode → Nat
  | gray => 2
  | color => 6
  | grayAlpha | palette | colorAlpha => 0

end Mode

/-- What an image holds under a name. -/
inductive Property where
  | text (value : List Char) (isAnnotated : Bool)
  /-- A colour profile; one that does not expand is kept as none. -/
  | profile (bytes? : Option (List UInt8))
  | number (value : Nat)
  /-- The sides of a frame. -/
  | frame (width height : Nat)
deriving DecidableEq

/-- What the chunks so far have said. -/
structure Progress where
  width : Nat
  height : Nat
  mode : Option Mode
  properties : List (String × Property)
  isAnimated : Bool
  /-- The number of the latest part of an animation. -/
  sequence : Option Nat
  /-- The number of characters in all texts. -/
  textSize : Nat

def Progress.start : Progress := ⟨0, 0, none, [], false, none, 0⟩

/-- A compressed text or profile may have that many bytes. -/
def mostExpanded : Nat := 1048576

/-- All texts together may have that many characters. -/
def mostText : Nat := 64 * mostExpanded

/-- A field that has to be there. -/
def field (data : List UInt8) (offset width : Nat) : Except Failure Nat :=
  match field? data offset width with
  | some value => .ok value
  | none => .error .unidentified

/-- Demands a number of bytes. -/
def demand (data : List UInt8) (count : Nat) (failure : Failure) : Except Failure Unit :=
  if data.length < count then .error failure else .ok ()

namespace Progress

def put (progress : Progress) (name : String) (property : Property) : Progress :=
  { progress with properties := KeyedList.put progress.properties name property }

/-- Takes in the chunk with the sizes and the colours. -/
def withHeader (progress : Progress) (data : List UInt8) : Except Failure Progress := do
  demand data 13 (.truncatedChunk "IHDR")
  let width ← field data 0 4
  let height ← field data 4 4
  let depth ← field data 8 1
  let colorType ← field data 9 1
  let filter ← field data 11 1
  if filter ≠ 0 then throw .unidentified
  return { progress with width, height, mode := (Mode.ofPair? depth colorType).or progress.mode }

/-- Takes in the chunk with a named and compressed colour profile. -/
def withProfile (progress : Progress) (data : List UInt8) : Except Failure Progress :=
  match ((splitAtNul? data).map (·.2)).getD data with
  | [] => .error .unidentified
  | method :: stream =>
      if method ≠ 0 then .error .unidentified
      else
        match Inflate.expand mostExpanded stream with
        | .bytes profile => .ok (progress.put "icc_profile" (.profile (some profile)))
        | .invalid => .ok (progress.put "icc_profile" (.profile none))
        | .tooLong => .error .expandsTooFar

/-- Takes in the chunk that claims the standard colour space. -/
def withStandardRgb (progress : Progress) (data : List UInt8) : Except Failure Progress := do
  demand data 1 (.truncatedChunk "sRGB")
  return progress.put "srgb" (.number (← field data 0 1))

/-- Counts the characters of a text that was taken in. -/
def withTextSize (progress : Progress) (count : Nat) : Except Failure Progress :=
  let textSize := progress.textSize + count
  if mostText < textSize then .error (.tooMuchText textSize) else .ok { progress with textSize }

/-- Takes in a text under a name, if the name is not empty. -/
def withNamedText (progress : Progress) (name value : List UInt8) : Except Failure Progress :=
  if name.isEmpty then .ok progress
  else
    (progress.put (String.ofList (charsOfBytes name))
      (.text (charsOfBytes value) false)).withTextSize value.length

/-- Takes in the chunk with a text. -/
def withText (progress : Progress) (data : List UInt8) : Except Failure Progress :=
  let (name, value) := (splitAtNul? data).getD (data, [])
  progress.withNamedText name value

/-- Takes in the chunk with a compressed text.  What does not expand is an empty text. -/
def withCompressedText (progress : Progress) (data : List UInt8) : Except Failure Progress :=
  let (name, value) := (splitAtNul? data).getD (data, [])
  if value.headD 0 ≠ 0 then .error .unidentified
  else
    match Inflate.expand mostExpanded (value.drop 1) with
    | .bytes expanded => progress.withNamedText name expanded
    | .invalid => progress.withNamedText name []
    | .tooLong => .error .expandsTooFar

/-- Takes in a text with its language and its name in that language, all in
UTF-8.  One that is not well formed is passed over. -/
def withAnnotatedText (progress : Progress) (name language localName value : List UInt8) :
    Except Failure Progress :=
  match Text.Utf8.decode language, Text.Utf8.decode localName, Text.Utf8.decode value with
  | .ok _, .ok _, .ok text =>
      (progress.put (String.ofList (charsOfBytes name)) (.text text true)).withTextSize text.length
  | _, _, _ => .ok progress

/-- Takes in the chunk with such a text, which may be compressed. -/
def withInternationalText (progress : Progress) (data : List UInt8) : Except Failure Progress :=
  match splitAtNul? data with
  | some (name, flag :: method :: behind) =>
      match splitAtNul? behind with
      | none => .ok progress
      | some (language, rest) =>
          match splitAtNul? rest with
          | none => .ok progress
          | some (localName, value) =>
              if flag = 0 then progress.withAnnotatedText name language localName value
              else if method ≠ 0 then .ok progress
              else
                match Inflate.expand mostExpanded value with
                | .bytes expanded =>
                    progress.withAnnotatedText name language localName expanded
                | .invalid => .ok progress
                | .tooLong => .error .expandsTooFar
  | _ => .ok progress

/-- The most pictures that an animation can have. -/
def mostPictures : Nat := 0x80000000

/-- Takes in the chunk that announces an animation.  A second one takes it back. -/
def withAnimation (progress : Progress) (data : List UInt8) : Except Failure Progress := do
  demand data 8 (.truncatedAnimationChunk "acTL")
  let count ← field data 0 4
  return { progress with
    isAnimated := !progress.isAnimated && 0 < count && count ≤ mostPictures }

/-- Takes in the number of a part of an animation, which must be the next one.  Where no part
has been there, the next one is `first?`. -/
def withSequence (progress : Progress) (first? : Option Nat) (number : Nat) :
    Except Failure Progress :=
  if (progress.sequence.map (· + 1)).or first? = some number then
    .ok { progress with sequence := some number }
  else .error .unidentified

/-- Takes in the chunk about a picture of an animation, whose frame must lie in the image. -/
def withFrame (progress : Progress) (data : List UInt8) : Except Failure Progress := do
  demand data 26 (.truncatedAnimationChunk "fcTL")
  let next ← progress.withSequence (some 0) (← field data 0 4)
  let width ← field data 4 4
  let height ← field data 8 4
  let left ← field data 12 4
  let top ← field data 16 4
  if next.width < left + width || next.height < top + height then throw .unidentified
  return (next.put "bbox" (.frame width height)).put "disposal" (.number (← field data 24 1))

/-- Takes in a chunk of which only the length matters here: it must hold that many bytes. -/
def withLength (progress : Progress) (type : String) (count : Nat) (data : List UInt8) :
    Except Failure Progress :=
  (demand data count (.truncatedChunk type)).map fun _ => progress

/-- How many bytes the points of the colours take: two numbers for each of four points. -/
def leastColorBytes : Nat := 32

/-- Takes in a chunk; one of another type says nothing. -/
def add (progress : Progress) (type : String) (data : List UInt8) : Except Failure Progress :=
  match type with
  | "IHDR" => progress.withHeader data
  | "iCCP" => progress.withProfile data
  | "sRGB" => progress.withStandardRgb data
  | "tEXt" => progress.withText data
  | "zTXt" => progress.withCompressedText data
  | "iTXt" => progress.withInternationalText data
  | "acTL" => progress.withAnimation data
  | "fcTL" => progress.withFrame data
  | "gAMA" => progress.withLength type 4 data
  | "pHYs" => progress.withLength type 9 data
  | "cHRM" => progress.withLength type leastColorBytes data
  | "tRNS" => progress.withLength type ((progress.mode.map Mode.transparentBytes).getD 0) data
  | _ => .ok progress

end Progress

def isTypeByte (byte : UInt8) : Bool := Text.isNamePart (Char.ofNat byte.toNat)

/-- Reads the data of a chunk and takes them in.  The check sum behind them must be right, but
what the data say comes first. -/
def readData (type : List UInt8) (length : Nat) (bytes : List UInt8)
    (takeIn : List UInt8 → Except Failure Progress) : Except Failure (Progress × List UInt8) := do
  let some (data, afterData) := takeBytes? length bytes | throw .truncatedFile
  let next ← takeIn data
  let some (sum, rest) := takeBytes? 4 afterData | throw .unidentified
  if (crc32 (type ++ data)).toNat ≠ bigEndian sum then throw .unidentified
  return (next, rest)

/-- Takes in the number in front of the pixels of an animation. -/
def readSequence (progress : Progress) (length : Nat) (bytes : List UInt8) :
    Except Failure (Progress × List UInt8) := do
  if length < 4 then throw (.truncatedAnimationChunk "fDAT")
  let some (number, rest) := takeBytes? 4 bytes | throw .truncatedFile
  return (← progress.withSequence none (bigEndian number), rest)

/-- Reads chunks up to the data of pixels or the end mark.  Pixels before the mode is known are
passed over.  Each chunk takes at least eight bytes. -/
def readChunks : Nat → Progress → List UInt8 → Except Failure Progress
  | 0, _, _ => .error .unidentified
  | fuel + 1, progress, bytes => do
      let some (head, afterHead) := takeBytes? 8 bytes | throw .unidentified
      let length := bigEndian (head.take 4)
      let type := head.drop 4
      if !type.all isTypeByte then throw .unidentified
      if type = ascii "IEND" || (type = ascii "IDAT" && progress.mode.isSome) then
        return progress
      else if type = ascii "fdAT" then
        let (next, afterNumber) ← readSequence progress length afterHead
        if next.mode.isSome then return next
        let (next, rest) ← readData type length afterNumber fun _ => .ok next
        readChunks fuel next rest
      else
        let (next, rest) ← readData type length afterHead
          (progress.add (String.ofList (charsOfBytes type)))
        readChunks fuel next rest

/-- The longest side of an area. -/
def mostSide : Nat := 2147483647

/-- The longest line that memory is set aside for. -/
def mostWidth : Nat := 536870910

/-- Is the first picture of the animation to be cleared behind its time? -/
def Progress.clearsPicture (progress : Progress) : Bool :=
  progress.isAnimated && (KeyedList.get? progress.properties "disposal" = some (.number 1) ||
    KeyedList.get? progress.properties "disposal" = some (.number 2))

/-- Sets an area of the image's size aside and checks the frame in it that will be cleared. -/
def Progress.checkClearing (progress : Progress) : Except Failure Unit :=
  if mostSide < progress.width || mostSide < progress.height then .error .sideOutOfRange
  else if mostWidth < progress.width then .error .outOfMemory
  else if progress.mode.isNone then .error .unknownMode
  else
    match KeyedList.get? progress.properties "bbox" with
    | some (.frame width height) => checkPixels width height
    | some (.text [] _) => .error .noFrame
    | _ => .error .unidentified

/-- What stands in the place of the colour profile. -/
def Progress.embeddedProfile (progress : Progress) : EmbeddedProfile :=
  match KeyedList.get? progress.properties "icc_profile" with
  | some (.profile bytes?) => .ofBytes? bytes?
  | some (.text (_ :: _) isAnnotated) => .text isAnnotated
  | _ => .absent

/-- The header that all chunks together make. -/
def Progress.toHeader (progress : Progress) : Except Failure Header := do
  if progress.clearsPicture then progress.checkClearing
  let some mode := progress.mode | throw .unidentified
  if progress.width = 0 || progress.height = 0 then throw .unidentified
  return ⟨progress.width, progress.height, mode.model, progress.embeddedProfile,
    KeyedList.contains progress.properties "srgb"⟩

/-- The header of a PNG file. -/
def header (bytes : List UInt8) : Except Failure Header := do
  (← readChunks bytes.length .start (bytes.drop 8)).toHeader

/-- Is the image interlaced?  The answer comes from a fixed place in the file, whether or not
the rest of it can be read. -/
def isInterlaced? (bytes : List UInt8) : Option Bool :=
  if signature.isPrefixOf bytes && (bytes.drop 12).take 4 = ascii "IHDR" then
    match (bytes[28]? : Option UInt8) with
    | some 0 => some false
    | some 1 => some true
    | _ => none
  else none

end AssetAudit.Image.Png
