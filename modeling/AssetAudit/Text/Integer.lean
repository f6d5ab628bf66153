import AssetAudit.Text.Blank
import AssetAudit.Text.Word

namespace AssetAudit.Text

/-! Whole numbers as text.  A number may be written with digits of any script, and single
underscores may stand between its digits. -/

/-- The decimal form of a whole number, with a minus sign when it is negative. -/
def decimal : Int → String
  | .ofNat n => Nat.repr n
  | .negSucc n => "-" ++ Nat.repr (n + 1)

/-- No number with more digits is read. -/
def maxDigits : Nat := 4300

/-- White space that may surround a number: any beyond ASCII, but none of the information
separators. -/
def isNumberBlank (c : Char) : Bool :=
  isBlank c && !(28 ≤ c.toNat && c.toNat ≤ 31)

/-- The values of a non-empty run of digits with single underscores between them. -/
def digitRun? : List Char → Option (List Nat)
  | [] => none
  | [c] => (digitValue? c).map ([·])
  | c :: '_' :: rest => do return (← digitValue? c) :: (← digitRun? rest)
  | c :: rest => do return (← digitValue? c) :: (← digitRun? rest)

def natOfDigits (digits : List Nat) : Nat :=
  digits.foldl (fun value digit => 10 * value + digit) 0

def natural? (text : List Char) : Option Nat := do
  let digits ← digitRun? text
  guard (digits.length ≤ maxDigits)
  return natOfDigits digits

/-- Reads a whole number with an optional sign and white space around it. -/
def integer? (text : List Char) : Option Int :=
  match dropEndWhile isNumberBlank (text.dropWhile isNumberBlank) with
  | '-' :: digits => (natural? digits).map fun value => -(value : Int)
  | '+' :: digits => (natural? digits).map Int.ofNat
  | digits => (natural? digits).map Int.ofNat

end AssetAudit.Text
