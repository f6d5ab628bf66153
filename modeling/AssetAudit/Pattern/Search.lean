import AssetAudit.Pattern.Basic

namespace AssetAudit

/-! Searching a text for a pattern, and replacing what is found. -/

/-- A match of a pattern, with its captures in the order in which they ended. -/
structure Match where
  start : Cursor
  stop : Cursor
  captures : List Capture

namespace Match

def offset (found : Match) : Nat := found.start.offset

def length (found : Match) : Nat := found.start.rest.length - found.stop.rest.length

/-- The characters of the capture with this number, counted from zero. -/
def captured (found : Match) (number : Nat) : List Char :=
  (found.captures[number]?.map Capture.chars).getD []

def capturedText (found : Match) (number : Nat) : String :=
  String.ofList (found.captured number)

end Match

namespace Pattern

/-- The preferred match that starts at this very place. -/
def matchAt? (pattern : Pattern) (cursor : Cursor) : Option Match :=
  (pattern.ends ⟨cursor, []⟩).head?.map fun reached =>
    ⟨cursor, reached.cursor, reached.captures.reverse⟩

/-- The matches in the rest of a text, from left to right.  The first `skip` characters belong
to the match before, and no two matches overlap. -/
def findAllFrom (pattern : Pattern) : Nat → List Char → List Char → List Match
  | _, _, [] => []
  | skip + 1, before, c :: rest => findAllFrom pattern skip (c :: before) rest
  | 0, before, c :: rest =>
      match pattern.matchAt? ⟨before, c :: rest⟩ with
      | none => findAllFrom pattern 0 (c :: before) rest
      | some found => found :: findAllFrom pattern (found.length - 1) (c :: before) rest

/-- All matches in a text.  The pattern matches no empty text. -/
def findAll (pattern : Pattern) (text : List Char) : List Match :=
  findAllFrom pattern 0 [] text

/-- Does the pattern match anywhere in a text? -/
def occursFrom (pattern : Pattern) (before : List Char) : List Char → Bool
  | [] => (pattern.matchAt? ⟨before, []⟩).isSome
  | c :: rest =>
      (pattern.matchAt? ⟨before, c :: rest⟩).isSome || occursFrom pattern (c :: before) rest

def occurs (pattern : Pattern) (text : List Char) : Bool := occursFrom pattern [] text

/-- The pieces of a text between its matches.  The current piece so far is `piece`, in reverse
order. -/
def cutFrom (pattern : Pattern) : Nat → List Char → List Char → List Char → List (List Char)
  | _, _, piece, [] => [piece.reverse]
  | skip + 1, before, piece, c :: rest => cutFrom pattern skip (c :: before) piece rest
  | 0, before, piece, c :: rest =>
      match pattern.matchAt? ⟨before, c :: rest⟩ with
      | none => cutFrom pattern 0 (c :: before) (c :: piece) rest
      | some found =>
          piece.reverse :: cutFrom pattern (found.length - 1) (c :: before) [] rest

/-- The pieces of a text between its matches, one more than there are matches. -/
def cut (pattern : Pattern) (text : List Char) : List (List Char) :=
  cutFrom pattern 0 [] [] text

end Pattern

end AssetAudit
