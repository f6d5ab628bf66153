import AssetAudit.Text.Blank
import AssetAudit.Text.Word

namespace AssetAudit

/-! Patterns over texts.  A pattern denotes, for every place in a text, the ordered list of all
ways to match there: the first is the preferred one, and a longer run comes before a shorter one.
Sequencing feeds every way of the first part to the second, so no way is lost to an early
choice. -/

/-- A text cut at one place.  What stands before the place is in reverse order. -/
structure Cursor where
  before : List Char
  rest : List Char
deriving DecidableEq

namespace Cursor

def atStart (text : List Char) : Cursor := ⟨[], text⟩

def offset (cursor : Cursor) : Nat := cursor.before.length

/-- The whole text. -/
def text (cursor : Cursor) : List Char := cursor.before.reverse ++ cursor.rest

/-- Moves over one character. -/
def advance? (accepts : Char → Bool) : Cursor → Option Cursor
  | ⟨_, []⟩ => none
  | ⟨before, c :: rest⟩ => if accepts c then some ⟨c :: before, rest⟩ else none

/-- Moves over exactly this piece of text. -/
def skip? : List Char → Cursor → Option Cursor
  | [], cursor => some cursor
  | c :: piece, cursor => (cursor.advance? (· == c)).bind (skip? piece)

/-- The ends of all runs of accepted characters from here, the longest first, in front of the
ends found `before` them. -/
def runEnds (accepts : Char → Bool) (found : List Cursor) (before : List Char) :
    List Char → List Cursor
  | [] => ⟨before, []⟩ :: found
  | c :: rest =>
      if accepts c then runEnds accepts (⟨before, c :: rest⟩ :: found) (c :: before) rest
      else ⟨before, c :: rest⟩ :: found

/-- Does a word begin or end here? -/
def atBoundary (cursor : Cursor) : Bool :=
  cursor.before.head?.any Text.isWord != cursor.rest.head?.any Text.isWord

end Cursor

/-- A captured piece of text, from `start` up to `stop`. -/
structure Capture where
  start : Cursor
  stop : Cursor

/-- The captured characters. -/
def Capture.chars (capture : Capture) : List Char :=
  capture.start.rest.take (capture.start.rest.length - capture.stop.rest.length)

/-- How far a match has come, with its captures in reverse order. -/
structure Progress where
  cursor : Cursor
  captures : List Capture

inductive Pattern where
  /-- One character of a class. -/
  | char (accepts : Char → Bool)
  /-- This very text. -/
  | text (piece : String)
  /-- Any number of characters of a class. -/
  | run (accepts : Char → Bool)
  /-- The beginning or the end of a word. -/
  | boundary
  | seq (first second : Pattern)
  | either (first second : Pattern)
  | optional (body : Pattern)
  /-- Any number of repetitions of something that is never empty. -/
  | many (body : Pattern)
  | capture (body : Pattern)

namespace Pattern

instance : Coe String Pattern := ⟨.text⟩

/-- The parts one after the other. -/
def sequence : List Pattern → Pattern
  | [] => .text ""
  | [last] => last
  | first :: rest => .seq first (sequence rest)

/-- The first part that fits, or a later one. -/
def choice : List Pattern → Pattern
  | [] => .char fun _ => false
  | [last] => last
  | first :: rest => .either first (choice rest)

/-- At least one character of a class. -/
def someOf (accepts : Char → Bool) : Pattern := .seq (.char accepts) (.run accepts)

def blanks : Pattern := .run Text.isBlank

def someBlanks : Pattern := someOf Text.isBlank

/-- A word of letters, digits and underscores of any script. -/
def word : Pattern := someOf Text.isWord

/-- All ways of up to `fuel` repetitions of a step, more repetitions first. -/
def repeatEnds (step : Progress → List Progress) : Nat → Progress → List Progress
  | 0, progress => [progress]
  | fuel + 1, progress => (step progress).flatMap (repeatEnds step fuel) ++ [progress]

/-- All ways to match from here, the preferred one first. -/
def ends : Pattern → Progress → List Progress
  | .char accepts, progress =>
      ((progress.cursor.advance? accepts).map fun cursor => { progress with cursor }).toList
  | .text piece, progress =>
      ((progress.cursor.skip? piece.toList).map fun cursor => { progress with cursor }).toList
  | .run accepts, progress =>
      (Cursor.runEnds accepts [] progress.cursor.before progress.cursor.rest).map fun cursor =>
        { progress with cursor }
  | .boundary, progress => if progress.cursor.atBoundary then [progress] else []
  | .seq first second, progress => (first.ends progress).flatMap second.ends
  | .either first second, progress => first.ends progress ++ second.ends progress
  | .optional body, progress => body.ends progress ++ [progress]
  | .many body, progress => repeatEnds body.ends progress.cursor.rest.length progress
  | .capture body, progress =>
      (body.ends progress).map fun reached =>
        { reached with captures := ⟨progress.cursor, reached.cursor⟩ :: reached.captures }

end Pattern

end AssetAudit
