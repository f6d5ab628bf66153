import AssetAudit.Image.Bytes
import AssetAudit.Text.Blank
import AssetAudit.Text.Surrogate

namespace AssetAudit.Image.Profile

/-! The description in a colour profile.  A profile has a header of 128 bytes, then a table of
its parts, of which the one called `desc` holds the description. -/

/-- A part of a profile as the table lists it. -/
structure Entry where
  signature : List UInt8
  offset : Nat
  size : Nat
deriving DecidableEq

/-- Reads a table, all of which must be there. -/
def readEntries? : Nat → List UInt8 → Option (List Entry)
  | 0, _ => some []
  | count + 1, bytes => do
      let (entry, rest) ← takeBytes? 12 bytes
      let first : Entry :=
        ⟨entry.take 4, bigEndian ((entry.drop 4).take 4), bigEndian (entry.drop 8)⟩
      return first :: (← readEntries? count rest)

/-- Does a part lie within a profile of so many bytes? -/
def Entry.liesWithin (size : Nat) (entry : Entry) : Bool :=
  entry.offset ≠ 0 && entry.size ≠ 0 && entry.offset + entry.size ≤ size

/-- What a profile may be for, if it says anything. -/
def classes : List (List UInt8) :=
  [[0, 0, 0, 0], ascii "scnr", ascii "mntr", ascii "prtr", ascii "link", ascii "abst",
    ascii "spac", ascii "nmcl"]

/-- Is the version no later than the fifth? -/
def hasKnownVersion (major minor : Nat) : Bool :=
  major < 5 || (major = 5 && minor = 0)

/-- Does the header belong to a profile that can be read? -/
def hasHeader (profile : List UInt8) : Bool :=
  128 ≤ profile.length && (profile.drop 36).take 4 = ascii "acsp" &&
    hasKnownVersion ((field? profile 8 1).getD 0) ((field? profile 9 1).getD 0) &&
    classes.contains ((profile.drop 12).take 4)

/-- A table lists at most so many parts. -/
def mostEntries : Nat := 100

/-- The size of a profile: the one in its header, but not more than there is. -/
def sizeOf (profile : List UInt8) : Nat :=
  min ((field? profile 0 4).getD 0) profile.length

/-- The parts of a profile, each of them listed once.  Those that do not lie within it are left
out. -/
def parts? (profile : List UInt8) : Option (List Entry) := do
  guard (hasHeader profile)
  let count ← field? profile 128 4
  guard (count ≤ mostEntries)
  let entries ← readEntries? count (profile.drop 132)
  let kept := entries.filter (·.liesWithin (sizeOf profile))
  guard (kept.map (·.signature)).Nodup
  return kept

/-- The bytes from the part with this signature on, and how many of them are its own. -/
def part? (profile : List UInt8) (signature : String) : Option (List UInt8 × Nat) := do
  let entries ← parts? profile
  let entry ← entries.find? (·.signature = ascii signature)
  return (profile.drop entry.offset, entry.size)

/-- Characters in ASCII up to the first NUL. -/
def charsOfAscii? (bytes : List UInt8) : Option (List Char) :=
  let text := bytes.takeWhile (· ≠ 0)
  if text.all (· < 0x80) then some (charsOfBytes text) else none

/-- The characters of so many units in UTF-16, the more significant byte first.  A unit of a pair
needs the other one. -/
def charsOfUtf16? (count : Nat) : List UInt8 → Option (List Char)
  | a :: b :: c :: d :: rest =>
      let unit := bigEndian [a, b]
      let next := bigEndian [c, d]
      if count = 0 then some []
      else if Text.Surrogate.isHigh unit && Text.Surrogate.isLow next then
        (charsOfUtf16? (count - 2) rest).map (Text.Surrogate.charOfPair unit next :: ·)
      else if Text.Surrogate.isHigh unit || Text.Surrogate.isLow unit then none
      else (charsOfUtf16? (count - 1) (c :: d :: rest)).map (Char.ofNat unit :: ·)
  | a :: b :: _ =>
      let unit := bigEndian [a, b]
      if count = 0 then some []
      else if count = 1 && !(Text.Surrogate.isHigh unit || Text.Surrogate.isLow unit) then
        some [Char.ofNat unit]
      else none
  | _ => if count = 0 then some [] else none

/-- A text in ASCII behind its length. -/
def plainText? (bytes : List UInt8) (size : Nat) : Option (List Char) := do
  guard (12 ≤ size)
  let length ← field? bytes 8 4
  guard (length ≤ size - 12)
  charsOfAscii? ((bytes.drop 12).take length)

/-- The form of a text in a language: the language and country, and where it lies among all. -/
structure LocalText where
  language : List UInt8
  country : List UInt8
  length : Nat
  offset : Nat
deriving DecidableEq

/-- Reads a list of forms, each of which must lie within the part. -/
def readLocalTexts? (least size : Nat) : Nat → List UInt8 → Option (List LocalText)
  | 0, _ => some []
  | count + 1, bytes => do
      let (record, rest) ← takeBytes? 12 bytes
      let length := bigEndian ((record.drop 4).take 4)
      let offset := bigEndian (record.drop 8)
      guard (offset % 2 = 0 ∧ least ≤ offset ∧ offset + length ≤ size)
      let first : LocalText := ⟨record.take 2, (record.drop 2).take 2, length, offset⟩
      return first :: (← readLocalTexts? least size count rest)

/-- The form to show: an English one for no country, an English one, or the first. -/
def LocalText.shown? (forms : List LocalText) : Option LocalText :=
  let english := forms.filter (·.language = ascii "en")
  (english.find? (·.country = [0, 0])).or (english.head?.or forms.head?)

/-- A text in several languages.  All forms of it are read before one is taken. -/
def localText? (bytes : List UInt8) (size : Nat) : Option (List Char) := do
  guard (16 ≤ size)
  let count ← field? bytes 8 4
  let width ← field? bytes 12 4
  guard (width = 12)
  let start := 16 + 12 * count
  let forms ← readLocalTexts? start size (min count (bytes.length + 1)) (bytes.drop 16)
  let shown ← LocalText.shown? forms
  let last := forms.foldr (fun form last =>
    max (form.offset + form.length) last) start
  guard ((last - start) % 2 = 0)
  let text ← charsOfUtf16? ((last - start) / 2) (bytes.drop start)
  return ((text.drop ((shown.offset - start) / 2)).take (shown.length / 2)).takeWhile (· ≠ '\x00')

/-- The text in a part, in one of three forms. -/
def partText? (bytes : List UInt8) (size : Nat) : Option (List Char) :=
  if size < 8 then none
  else if bytes.take 4 = ascii "desc" then plainText? bytes size
  else if bytes.take 4 = ascii "mluc" then localText? bytes size
  else if bytes.take 4 = ascii "text" then charsOfAscii? ((bytes.take size).drop 8)
  else none

/-- The description of a profile without white space around it; an empty one is none. -/
def description? (profile : List UInt8) : Option String := do
  let (bytes, size) ← part? profile "desc"
  let stripped := Text.strip (← partText? bytes size)
  guard (!stripped.isEmpty)
  return String.ofList stripped

end AssetAudit.Image.Profile
