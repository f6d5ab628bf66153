import AssetAudit.Text.Ranges
import AssetAudit.Text.WordRanges
import AssetAudit.Text.DigitZeros

namespace AssetAudit.Text

/-! Classes of characters that identifiers and numbers are made of. -/

def isAsciiLetter (c : Char) : Bool :=
  ('a' ≤ c && c ≤ 'z') || ('A' ≤ c && c ≤ 'Z')

def isAsciiDigit (c : Char) : Bool :=
  '0' ≤ c && c ≤ '9'

/-- A letter or a numeric character of any script, or the underscore. -/
def isWord (c : Char) : Bool :=
  if c.toNat < 0x80 then
    isAsciiLetter c || isAsciiDigit c || c == '_'
  else
    inRanges c.toNat wordRanges

/-- First character of an ASCII identifier. -/
def isNameStart (c : Char) : Bool :=
  isAsciiLetter c || c == '_'

/-- Later character of an ASCII identifier. -/
def isNamePart (c : Char) : Bool :=
  isNameStart c || isAsciiDigit c

/-- The value of a decimal digit of any script. -/
def digitValue? (c : Char) : Option Nat :=
  if isAsciiDigit c then
    some (c.toNat - '0'.toNat)
  else
    (digitZeros.find? fun first => first ≤ c.toNat && c.toNat < first + 10).map (c.toNat - ·)

end AssetAudit.Text
