namespace AssetAudit.Image

/-! Whole numbers and check sums in binary files. -/

/-- The number that bytes write, the most significant one first. -/
def bigEndian (bytes : List UInt8) : Nat :=
  bytes.foldl (fun value byte => 256 * value + byte.toNat) 0

/-- The number that bytes write, the least significant one first. -/
def littleEndian (bytes : List UInt8) : Nat :=
  bytes.foldr (fun byte value => byte.toNat + 256 * value) 0

/-- The first `count` bytes and those behind them, if there are so many. -/
def takeBytes? (count : Nat) (bytes : List UInt8) : Option (List UInt8 × List UInt8) :=
  if count ≤ bytes.length then some (bytes.splitAt count) else none

/-- The number in a field of `width` bytes at an offset. -/
def field? (bytes : List UInt8) (offset width : Nat) : Option Nat :=
  (takeBytes? width (bytes.drop offset)).map fun (value, _) => bigEndian value

/-- ASCII characters as bytes. -/
def ascii (text : String) : List UInt8 := text.toList.map fun c => c.toNat.toUInt8

/-- The bytes before the first NUL and those behind it, if there is one. -/
def splitAtNul? (bytes : List UInt8) : Option (List UInt8 × List UInt8) :=
  match bytes.dropWhile (· ≠ 0) with
  | _ :: behind => some (bytes.takeWhile (· ≠ 0), behind)
  | [] => none

/-- Bytes as the characters with their codes. -/
def charsOfBytes (bytes : List UInt8) : List Char := bytes.map fun byte => Char.ofNat byte.toNat

def crcBit (crc : UInt32) : UInt32 :=
  if crc &&& 1 = 1 then (crc >>> 1) ^^^ 0xEDB88320 else crc >>> 1

def crcByte (crc : UInt32) (byte : UInt8) : UInt32 :=
  Nat.repeat crcBit 8 (crc ^^^ byte.toUInt32)

/-- The cyclic redundancy check of 32 bits. -/
def crc32 (bytes : List UInt8) : UInt32 :=
  bytes.foldl crcByte 0xFFFFFFFF ^^^ 0xFFFFFFFF

/-- The sum of the bytes and the sum of its stages, both modulo 65521. -/
def adler32 (bytes : List UInt8) : Nat :=
  let (low, high) := bytes.foldl
    (fun (low, high) byte =>
      let low := (low + byte.toNat) % 65521
      (low, (high + low) % 65521))
    (1, 0)
  65536 * high + low

end AssetAudit.Image
