import AssetAudit.Image.Bytes

namespace AssetAudit.Image

/-! Directories of tagged values, as cameras put them into image files. -/

inductive ByteOrder where
  | bigEnd
  | littleEnd
deriving DecidableEq

/-- The number that bytes write in an order. -/
def ByteOrder.number : ByteOrder → List UInt8 → Nat
  | bigEnd => bigEndian
  | littleEnd => littleEndian

/-- A value under its tag, with the number of its type. -/
structure TaggedValue where
  tag : Nat
  type : Nat
  data : List UInt8
deriving DecidableEq

structure TagDirectory where
  order : ByteOrder
  values : List TaggedValue
deriving DecidableEq

namespace TagDirectory

/-- How many bytes a unit of a type takes. -/
def unitSize? : Nat → Option Nat
  | 1 | 2 | 6 | 7 => some 1
  | 3 | 8 => some 2
  | 4 | 9 | 11 | 13 => some 4
  | 5 | 10 | 12 | 16 => some 8
  | _ => none

/-- The marks in front of a directory.  The second byte of a number may be in the wrong place. -/
def orderOf? : List UInt8 → Option ByteOrder
  | [0x4D, 0x4D, 0x00, 0x2A] | [0x4D, 0x4D, 0x2A, 0x00] | [0x4D, 0x4D, 0x00, 0x2B] => some .bigEnd
  | [0x49, 0x49, 0x2A, 0x00] | [0x49, 0x49, 0x00, 0x2A] => some .littleEnd
  | _ => none

/-- The data of an entry: the last four bytes of it, or as many bytes as it takes in another place.
There are none if the place is not within the bytes. -/
def dataOf? (order : ByteOrder) (bytes : List UInt8) (size : Nat) (last : List UInt8) :
    Option (List UInt8) :=
  if size ≤ 4 then some (last.take size)
  else (takeBytes? size (bytes.drop (order.number last))).map (·.1)

/-- Reads entries up to one that is cut off.  An entry of an unknown type or without data is
passed over. -/
def readValues (order : ByteOrder) (bytes : List UInt8) : Nat → List UInt8 → List TaggedValue
  | 0, _ => []
  | count + 1, here =>
      match takeBytes? 12 here with
      | none => []
      | some (entry, rest) =>
          let type := order.number ((entry.drop 2).take 2)
          match unitSize? type with
          | none => readValues order bytes count rest
          | some unit =>
              let size := order.number ((entry.drop 4).take 4) * unit
              match dataOf? order bytes size (entry.drop 8) with
              | none => []
              | some data =>
                  let others := readValues order bytes count rest
                  if data.isEmpty then others
                  else ⟨order.number (entry.take 2), type, data⟩ :: others

/-- Reads the directory in bytes that start with the marks and the place of the directory. -/
def ofBytes? (bytes : List UInt8) : Option TagDirectory := do
  let order ← orderOf? (bytes.take 4)
  let (place, _) ← takeBytes? 4 (bytes.drop 4)
  let here := bytes.drop (order.number place)
  let values := match takeBytes? 2 here with
    | some (count, rest) => readValues order bytes (order.number count) rest
    | none => []
  return ⟨order, values⟩

/-- The value under a tag; the last one counts. -/
def value? (directory : TagDirectory) (tag : Nat) : Option TaggedValue :=
  directory.values.reverse.find? (·.tag = tag)

end TagDirectory

/-- A value that is taken as bytes. -/
def TaggedValue.bytes? (value : TaggedValue) : Option (List UInt8) :=
  if value.type = 1 || value.type = 7 then some value.data else none

/-- The first whole number of a value. -/
def TaggedValue.integer? (order : ByteOrder) (value : TaggedValue) : Option Int :=
  match value.type with
  | 3 | 4 | 13 | 16 =>
      some (order.number (value.data.take ((TagDirectory.unitSize? value.type).getD 0)))
  | 6 | 8 | 9 =>
      let width := (TagDirectory.unitSize? value.type).getD 0
      let number := order.number (value.data.take width)
      let limit := 1 <<< (8 * width)
      some (if 2 * number < limit then Int.ofNat number else Int.ofNat number - Int.ofNat limit)
  | _ => none

/-- The characters of a value that is taken as a text; a NUL at the end is none of them. -/
def TaggedValue.text? (value : TaggedValue) : Option (List UInt8) :=
  if value.type = 2 then
    some (if value.data.getLast? = some 0 then value.data.dropLast else value.data)
  else none

end AssetAudit.Image
