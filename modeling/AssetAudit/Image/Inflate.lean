import AssetAudit.Image.Bytes

namespace AssetAudit.Image.Inflate

/-! Expanding a compressed stream.  The stream is read bit by bit, and a stream that ends early
still gives what was expanded before. -/

/-- A code for symbols, as the tree that its bits walk down. -/
inductive CodeTree where
  | absent
  | symbol (value : Nat)
  | branch (zeroBit oneBit : CodeTree)

/-- Bits still to read, the bytes expanded so far, the latest first, and how many more there may
be. -/
structure Stream where
  bits : List Bool
  output : List UInt8
  room : Nat

/-- Why expanding stops before the end of the stream. -/
inductive Stop where
  | truncated
  | invalid
  /-- There would be more bytes than there may be. -/
  | full
deriving DecidableEq

abbrev Reading (α : Type) := ExceptT Stop (StateM Stream) α

def readBit : Reading Bool := do
  let stream ← get
  match stream.bits with
  | [] => throw .truncated
  | bit :: rest =>
      set { stream with bits := rest }
      return bit

/-- A number of `width` bits, the least significant one first. -/
def readNumber : Nat → Reading Nat
  | 0 => return 0
  | width + 1 => do
      let bit ← readBit
      let higher ← readNumber width
      return 2 * higher + bit.toNat

def checkRoom : Reading Unit := do
  if (← get).room = 0 then throw .full

def emit (byte : UInt8) : Reading Unit := do
  checkRoom
  modify fun stream =>
    { stream with output := byte :: stream.output, room := stream.room - 1 }

/-- Drops the bits up to the next whole byte. -/
def alignToByte : Reading Unit :=
  modify fun stream => { stream with bits := stream.bits.drop (stream.bits.length % 8) }

namespace CodeTree

def insert (value : Nat) : List Bool → CodeTree → CodeTree
  | [], _ => .symbol value
  | false :: rest, .branch zeroBit oneBit => .branch (zeroBit.insert value rest) oneBit
  | true :: rest, .branch zeroBit oneBit => .branch zeroBit (oneBit.insert value rest)
  | false :: rest, _ => .branch (insert value rest .absent) .absent
  | true :: rest, _ => .branch .absent (insert value rest .absent)

def read : CodeTree → Reading Nat
  | absent => throw .invalid
  | symbol value => return value
  | branch zeroBit oneBit => do
      if ← readBit then oneBit.read else zeroBit.read

/-- The last `width` bits of a number, the most significant one first. -/
def bitsOf : Nat → Nat → List Bool
  | 0, _ => []
  | width + 1, value => bitsOf width (value / 2) ++ [value % 2 == 1]

/-- Gives the codes of one length to its symbols, in ascending order. -/
def addLength (lengths : List Nat) (state : Nat × CodeTree) (length : Nat) : Nat × CodeTree :=
  lengths.zipIdx.foldl
    (fun (code, tree) (symbolLength, value) =>
      if symbolLength = length then (code + 1, tree.insert value (bitsOf length code))
      else (code, tree))
    (2 * state.1, state.2)

/-- The canonical code in which each symbol has a given length; a length of zero leaves it
out. -/
def ofLengths (lengths : List Nat) : CodeTree :=
  ((List.range' 1 15).foldl (addLength lengths) (0, .absent)).2

end CodeTree

/-- The share of all codes of fifteen bits that a code takes. -/
def codeSpace (lengths : List Nat) : Nat :=
  (lengths.filter (· ≠ 0)).foldr (fun length space => Nat.pow 2 (15 - length) + space) 0

/-- All codes of fifteen bits. -/
def wholeSpace : Nat := 32768

/-- A code may leave a share unused only where `mayBeSparse`, and then only if it has a single
symbol of one bit. -/
def isUsable (mayBeSparse : Bool) (lengths : List Nat) : Bool :=
  codeSpace lengths = wholeSpace || lengths.all (· = 0) ||
    (mayBeSparse && codeSpace lengths < wholeSpace && lengths.all (· ≤ 1))

def codeOf (mayBeSparse : Bool) (lengths : List Nat) : Reading CodeTree :=
  if isUsable mayBeSparse lengths then return .ofLengths lengths else throw .invalid

/-- Least length and number of further bits for the length symbols from 257 on. -/
def lengthRanges : List (Nat × Nat) := [
  (3, 0), (4, 0), (5, 0), (6, 0), (7, 0), (8, 0), (9, 0), (10, 0), (11, 1), (13, 1), (15, 1),
  (17, 1), (19, 2), (23, 2), (27, 2), (31, 2), (35, 3), (43, 3), (51, 3), (59, 3), (67, 4),
  (83, 4), (99, 4), (115, 4), (131, 5), (163, 5), (195, 5), (227, 5), (258, 0)]

/-- Least distance and number of further bits for the distance symbols. -/
def distanceRanges : List (Nat × Nat) := [
  (1, 0), (2, 0), (3, 0), (4, 0), (5, 1), (7, 1), (9, 2), (13, 2), (17, 3), (25, 3), (33, 4),
  (49, 4), (65, 5), (97, 5), (129, 6), (193, 6), (257, 7), (385, 7), (513, 8), (769, 8),
  (1025, 9), (1537, 9), (2049, 10), (3073, 10), (4097, 11), (6145, 11), (8193, 12), (12289, 12),
  (16385, 13), (24577, 13)]

def readRange (ranges : List (Nat × Nat)) (number : Nat) : Reading Nat :=
  match ranges[number]? with
  | some (least, width) => do return least + (← readNumber width)
  | none => throw .invalid

/-- Repeats bytes of the output, each from the same distance back. -/
def copyBack (distance : Nat) : Nat → Reading Unit
  | 0 => return
  | count + 1 => do
      checkRoom
      match (← get).output[distance - 1]? with
      | some byte =>
          emit byte
          copyBack distance count
      | none => throw .invalid

/-- Reads symbols up to the end of the block.  Each takes at least one bit. -/
def readSymbols (literals distances : CodeTree) : Nat → Reading Unit
  | 0 => throw .truncated
  | fuel + 1 => do
      let symbol ← literals.read
      if symbol < 256 then
        emit symbol.toUInt8
        readSymbols literals distances fuel
      else if symbol = 256 then
        return
      else
        let length ← readRange lengthRanges (symbol - 257)
        let distance ← readRange distanceRanges (← distances.read)
        copyBack distance length
        readSymbols literals distances fuel

def readStoredBytes : Nat → Reading Unit
  | 0 => return
  | count + 1 => do
      checkRoom
      emit (← readNumber 8).toUInt8
      readStoredBytes count

/-- A block of plain bytes.  Its length is written twice, the second time inverted. -/
def readStored : Reading Unit := do
  alignToByte
  let length ← readNumber 16
  let inverse ← readNumber 16
  if length + inverse = 0xFFFF then readStoredBytes length else throw .invalid

def fixedLengths : List Nat :=
  List.replicate 144 8 ++ List.replicate 112 9 ++ List.replicate 24 7 ++ List.replicate 8 8

/-- The order in which the lengths of the code for lengths are written. -/
def lengthOrder : List Nat := [16, 17, 18, 0, 8, 7, 9, 6, 10, 5, 11, 4, 12, 3, 13, 2, 14, 1, 15]

/-- Reads `count` lengths behind those read before; a run may not go beyond them. -/
def readLengths (code : CodeTree) (count : Nat) : Nat → List Nat → Reading (List Nat)
  | 0, _ => throw .truncated
  | fuel + 1, before =>
      if before.length = count then return before
      else if count < before.length then throw .invalid
      else do
        let symbol ← code.read
        if symbol < 16 then
          readLengths code count fuel (before ++ [symbol])
        else if symbol = 16 then
          match before.getLast? with
          | some last =>
              let times := 3 + (← readNumber 2)
              readLengths code count fuel (before ++ List.replicate times last)
          | none => throw .invalid
        else
          let times ← if symbol = 17 then pure (3 + (← readNumber 3))
            else pure (11 + (← readNumber 7))
          readLengths code count fuel (before ++ List.replicate times 0)

def readLengthTable : Nat → Reading (List Nat)
  | 0 => return []
  | count + 1 => do
      let first ← readNumber 3
      return first :: (← readLengthTable count)

/-- The two codes that a block brings with it. -/
def readCodes : Reading (CodeTree × CodeTree) := do
  let literalCount := 257 + (← readNumber 5)
  let distanceCount := 1 + (← readNumber 5)
  let tableCount := 4 + (← readNumber 4)
  if literalCount > 286 || distanceCount > 30 then throw .invalid
  let table ← readLengthTable tableCount
  let ordered := (List.range 19).map fun value =>
    (((lengthOrder.zip table).lookup value).getD 0)
  let code ← codeOf false ordered
  let lengths ← readLengths code (literalCount + distanceCount)
    (literalCount + distanceCount + 1) []
  let literalLengths := lengths.take literalCount
  if literalLengths[256]? = some 0 then throw .invalid
  return (← codeOf true literalLengths, ← codeOf true (lengths.drop literalCount))

/-- Reads a block and says whether it was the last one. -/
def readBlock (fuel : Nat) : Reading Bool := do
  let isLast ← readBit
  match ← readNumber 2 with
  | 0 => readStored
  | 1 => readSymbols (.ofLengths fixedLengths) (.ofLengths (List.replicate 32 5)) fuel
  | 2 => do
      let (literals, distances) ← readCodes
      readSymbols literals distances fuel
  | _ => throw .invalid
  return isLast

/-- Reads blocks up to the last one.  Each takes at least three bits. -/
def readBlocks (fuel : Nat) : Nat → Reading Unit
  | 0 => throw .truncated
  | blocks + 1 => do
      if ← readBlock fuel then return else readBlocks fuel blocks

/-- The two bytes in front of the blocks: the method, and a check that makes them a multiple of
31. -/
def readHeader : Reading Unit := do
  let method ← readNumber 8
  let flags ← readNumber 8
  if (256 * method + flags) % 31 ≠ 0 || method % 16 ≠ 8 || method / 16 > 7 ||
      flags / 32 % 2 = 1 then
    throw .invalid

/-- The check sum behind the blocks, most significant byte first. -/
def readCheckSum : Reading Unit := do
  alignToByte
  let first ← readNumber 8
  let second ← readNumber 8
  let third ← readNumber 8
  let fourth ← readNumber 8
  let expected := adler32 (← get).output.reverse
  if ((first * 256 + second) * 256 + third) * 256 + fourth ≠ expected then throw .invalid

def readStream (fuel : Nat) : Reading Unit := do
  readHeader
  readBlocks fuel fuel
  readCheckSum

def bitsOfByte (byte : UInt8) : List Bool :=
  (List.range 8).map fun index => byte.toNat.testBit index

/-- What becomes of a compressed stream. -/
inductive Expansion where
  | bytes (output : List UInt8)
  | invalid
  /-- There are more bytes than there may be, and the stream goes on. -/
  | tooLong
deriving DecidableEq

/-- Expands a compressed stream to at most `limit` bytes. -/
def expand (limit : Nat) (compressed : List UInt8) : Expansion :=
  let bits := compressed.flatMap bitsOfByte
  match (readStream (bits.length + 1)).run.run ⟨bits, [], limit⟩ with
  | (.error .invalid, _) => .invalid
  | (.error .full, stream) =>
      if stream.bits.length < 8 then .bytes stream.output.reverse else .tooLong
  | (_, stream) => .bytes stream.output.reverse

end AssetAudit.Image.Inflate
