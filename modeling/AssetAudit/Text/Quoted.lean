import AssetAudit.Text.Ranges
import AssetAudit.Text.HiddenRanges

namespace AssetAudit.Text

/-! The quoted form in which messages show a text: visible characters stand for themselves, all
others are escaped. -/

/-- The last `width` hexadecimal digits of `code`, in small letters. -/
def hexDigits : Nat → Nat → List Char
  | 0, _ => []
  | width + 1, code => hexDigits width (code / 16) ++ [Nat.digitChar (code % 16)]

def isVisible (c : Char) : Bool :=
  if c.toNat < 0x80 then 0x20 ≤ c.toNat && c.toNat < 0x7F
  else !inRanges c.toNat hiddenRanges

/-- An escape by code point, in the shortest of three widths. -/
def hexEscape (code : Nat) : List Char :=
  if code ≤ 0xFF then '\\' :: 'x' :: hexDigits 2 code
  else if code ≤ 0xFFFF then '\\' :: 'u' :: hexDigits 4 code
  else '\\' :: 'U' :: hexDigits 8 code

def quotedChar (quote c : Char) : List Char :=
  if c == quote || c == '\\' then ['\\', c]
  else if c == '\n' then ['\\', 'n']
  else if c == '\r' then ['\\', 'r']
  else if c == '\t' then ['\\', 't']
  else if isVisible c then [c]
  else hexEscape c.toNat

/-- Single quotes, unless the text has some and no double quote. -/
def quoteFor (text : List Char) : Char :=
  if text.contains '\'' && !text.contains '"' then '"' else '\''

def quotedChars (text : List Char) : List Char :=
  let quote := quoteFor text
  quote :: text.flatMap (quotedChar quote) ++ [quote]

/-- A text in quotes, on one line. -/
def quoted (text : String) : String := String.ofList (quotedChars text.toList)

end AssetAudit.Text
