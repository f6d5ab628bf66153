import AssetAudit.Text.Ranges
import AssetAudit.Text.CaseRuns
import AssetAudit.Text.CasedRanges

namespace AssetAudit.Text

/-! Full case mapping of texts.  A mapping may turn one character into several, and a capital
sigma that ends a word becomes the final small sigma. -/

def CaseRun.image? (run : CaseRun) (code : Nat) : Option Nat :=
  if run.first ≤ code && code ≤ run.last && (code - run.first) % run.step == 0 then
    some (code + run.shift).toNat
  else
    none

/-- The image of a character under the mapping given by runs and expansions.  A character that
neither of them lists stays as it is. -/
def mapCase (runs : List CaseRun) (expansions : List (Nat × List Nat)) (c : Char) : List Char :=
  match runs.findSome? (·.image? c.toNat) with
  | some code => [Char.ofNat code]
  | none =>
      match expansions.find? (·.1 == c.toNat) with
      | some (_, codes) => codes.map Char.ofNat
      | none => [c]

def isCased (c : Char) : Bool := inRanges c.toNat casedRanges

def isCaseIgnorable (c : Char) : Bool := inRanges c.toNat caseIgnorableRanges

/-- Does the nearest character that is not skipped carry case? -/
def nextIsCased (text : List Char) : Bool :=
  match text.dropWhile isCaseIgnorable with
  | [] => false
  | c :: _ => isCased c

/-- A capital sigma ends a word when a letter stands before it and none after it. -/
def sigmaIsFinal (before after : List Char) : Bool :=
  nextIsCased before && !nextIsCased after

/-- Small form of one character between `before`, in reverse order, and `after`. -/
def lowerChar (before after : List Char) (c : Char) : List Char :=
  if c.toNat < 0x80 then
    [if 'A' ≤ c && c ≤ 'Z' then Char.ofNat (c.toNat + 32) else c]
  else if c == 'Σ' then
    [if sigmaIsFinal before after then 'ς' else 'σ']
  else
    mapCase lowerRuns lowerExpansions c

/-- Small form of a text that follows `before`, given in reverse order. -/
def lowerAfter (before : List Char) : List Char → List Char
  | [] => []
  | c :: rest => lowerChar before rest c ++ lowerAfter (c :: before) rest

def lower (text : List Char) : List Char := lowerAfter [] text

def upperChar (c : Char) : List Char :=
  if c.toNat < 0x80 then
    [if 'a' ≤ c && c ≤ 'z' then Char.ofNat (c.toNat - 32) else c]
  else
    mapCase upperRuns upperExpansions c

def upper (text : List Char) : List Char := text.flatMap upperChar

/-- The first character in title case, the others small. -/
def capitalize : List Char → List Char
  | [] => []
  | c :: rest => mapCase titleRuns titleExpansions c ++ lowerAfter [c] rest

end AssetAudit.Text
