namespace AssetAudit.Text.Surrogate

/-! Surrogates, the units of UTF-16 of which only a pair stands for a character.  Where a text
names one without its other half, a character takes its place to which nothing is assigned, so
that the text equals no other. -/

def isHigh (unit : Nat) : Bool := 0xD800 ≤ unit && unit ≤ 0xDBFF

def isLow (unit : Nat) : Bool := 0xDC00 ≤ unit && unit ≤ 0xDFFF

/-- The character for which two halves stand. -/
def charOfPair (high low : Nat) : Char :=
  Char.ofNat (0x10000 + (high - 0xD800) * 0x400 + (low - 0xDC00))

/-- How far above a lone half the character is that takes its place. -/
def shift : Nat := 0xA0000

/-- The character of a single unit. -/
def charOfUnit (unit : Nat) : Char :=
  if isHigh unit || isLow unit then Char.ofNat (unit + shift) else Char.ofNat unit

end AssetAudit.Text.Surrogate
