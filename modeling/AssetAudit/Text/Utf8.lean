import AssetAudit.Text.Integer
import AssetAudit.Text.Quoted

namespace AssetAudit.Text.Utf8

/-! Strict decoding of UTF-8, one byte at a time.  A sequence is refused at the first byte that
rules it out, and the error covers the bytes that still made sense before it. -/

inductive Problem where
  | invalidStart
  | invalidContinuation
  | unexpectedEnd
deriving DecidableEq

def Problem.reason : Problem → String
  | .invalidStart => "invalid start byte"
  | .invalidContinuation => "invalid continuation byte"
  | .unexpectedEnd => "unexpected end of data"

/-- Refused bytes, the first of them at offset `start`. -/
structure DecodeError where
  start : Nat
  bytes : List UInt8
  problem : Problem
deriving DecidableEq

/-- One refused byte is shown, several are only located. -/
def DecodeError.message (error : DecodeError) : String :=
  match error.bytes with
  | [byte] =>
      "'utf-8' codec can't decode byte 0x" ++ String.ofList (hexDigits 2 byte.toNat) ++
        " in position " ++ decimal error.start ++ ": " ++ error.problem.reason
  | bytes =>
      "'utf-8' codec can't decode bytes in position " ++ decimal error.start ++ "-" ++
        decimal (error.start + bytes.length - 1 : Nat) ++ ": " ++ error.problem.reason

/-- A character that is not complete yet: its bits so far, how many bytes it still needs, and the
least and greatest value of the next one. -/
structure Partial where
  bits : Nat
  owed : Nat
  low : Nat
  high : Nat
  start : Nat
  taken : List UInt8

/-- What a first byte beyond ASCII announces.  The bounds of the second byte rule out overlong
forms, surrogates and code points beyond U+10FFFF. -/
def Partial.ofFirst? (start : Nat) (byte : UInt8) : Option Partial :=
  let b := byte.toNat
  if b < 0xC2 then none
  else if b < 0xE0 then some ⟨b - 0xC0, 1, 0x80, 0xBF, start, [byte]⟩
  else if b < 0xF0 then
    some ⟨b - 0xE0, 2, if b = 0xE0 then 0xA0 else 0x80, if b = 0xED then 0x9F else 0xBF,
      start, [byte]⟩
  else if b < 0xF5 then
    some ⟨b - 0xF0, 3, if b = 0xF0 then 0x90 else 0x80, if b = 0xF4 then 0x8F else 0xBF,
      start, [byte]⟩
  else none

def Partial.accepts (part : Partial) (byte : UInt8) : Bool :=
  part.low ≤ byte.toNat && byte.toNat ≤ part.high

def Partial.push (part : Partial) (byte : UInt8) : Partial :=
  ⟨64 * part.bits + (byte.toNat - 0x80), part.owed - 1, 0x80, 0xBF, part.start,
    part.taken ++ [byte]⟩

def Partial.refuse (part : Partial) (problem : Problem) : DecodeError :=
  ⟨part.start, part.taken, problem⟩

/-- Decodes the bytes from `offset` on, after the start of a character if there is one. -/
def decodeFrom (offset : Nat) : Option Partial → List UInt8 → Except DecodeError (List Char)
  | none, [] => .ok []
  | some part, [] => .error (part.refuse .unexpectedEnd)
  | none, byte :: rest =>
      if byte < 0x80 then do
        return Char.ofNat byte.toNat :: (← decodeFrom (offset + 1) none rest)
      else
        match Partial.ofFirst? offset byte with
        | none => .error ⟨offset, [byte], .invalidStart⟩
        | some part => decodeFrom (offset + 1) (some part) rest
  | some part, byte :: rest =>
      if part.accepts byte then
        if part.owed = 1 then do
          return Char.ofNat (part.push byte).bits :: (← decodeFrom (offset + 1) none rest)
        else
          decodeFrom (offset + 1) (some (part.push byte)) rest
      else
        .error (part.refuse .invalidContinuation)

def decode (bytes : List UInt8) : Except DecodeError (List Char) :=
  decodeFrom 0 none bytes

end AssetAudit.Text.Utf8
