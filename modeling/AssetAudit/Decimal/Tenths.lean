import AssetAudit.Text.Integer

namespace AssetAudit.Decimal

/-! Quotients with one decimal place.  A quotient is first rounded to a binary number of 53
significant bits, and that number is then rounded to tenths.  Both roundings go to the nearer
neighbour and to the even one of two equally near. -/

/-- The whole number nearest to a quotient; a tie goes to the even one. -/
def roundDiv (numerator denominator : Nat) : Nat :=
  let quotient := numerator / denominator
  let twice := 2 * (numerator % denominator)
  if twice < denominator then quotient
  else if denominator < twice then quotient + 1
  else quotient + quotient % 2

def twoPow (exponent : Nat) : Nat := Nat.pow 2 exponent

/-- The number `mantissa * 2 ^ exponent`. -/
structure Binary where
  mantissa : Nat
  exponent : Int
deriving DecidableEq

/-- A quotient scaled by a power of two and rounded. -/
def roundScaled (numerator denominator : Nat) (exponent : Int) : Nat :=
  match exponent with
  | .ofNat up => roundDiv numerator (denominator * twoPow up)
  | .negSucc down => roundDiv (numerator * twoPow (down + 1)) denominator

/-- The exponent for which a positive quotient has 53 bits before its point. -/
def exponentFor (numerator denominator : Nat) : Int :=
  let guess : Int := (numerator.log2 : Int) - denominator.log2 - 52
  let tooLarge :=
    match guess with
    | .ofNat up => decide (numerator < denominator * twoPow (52 + up))
    | .negSucc down => decide (numerator * twoPow (down + 1) < denominator * twoPow 52)
  if tooLarge then guess - 1 else guess

/-- The binary number of 53 bits nearest to a positive quotient. -/
def nearestBinary (numerator denominator : Nat) : Binary :=
  let exponent := exponentFor numerator denominator
  ⟨roundScaled numerator denominator exponent, exponent⟩

/-- The numbers from here on are out of range. -/
def Binary.limit : Nat := twoPow 1024

def Binary.inRange (value : Binary) : Bool :=
  match value.exponent with
  | .ofNat up => value.mantissa * twoPow up < Binary.limit
  | .negSucc _ => true

/-- How many tenths the number has, rounded. -/
def Binary.tenths (value : Binary) : Nat :=
  match value.exponent with
  | .ofNat up => 10 * value.mantissa * twoPow up
  | .negSucc down => roundDiv (10 * value.mantissa) (twoPow (down + 1))

/-- A number of tenths with a point. -/
def tenthsText (tenths : Nat) : String :=
  Text.decimal (tenths / 10 : Nat) ++ "." ++ Text.decimal (tenths % 10 : Nat)

/-- A positive quotient with one decimal place, or nothing when it is out of range. -/
def quotientText? (numerator denominator : Nat) : Option String :=
  let value := nearestBinary numerator denominator
  if value.inRange then some (tenthsText value.tenths) else none

end AssetAudit.Decimal
