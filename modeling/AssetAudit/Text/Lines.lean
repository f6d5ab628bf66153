namespace AssetAudit.Text

/-! Lines of a text.  Two notions live side by side: the number of a line counts line feeds only,
while the cutting of a text into lines honours every line boundary of Unicode. -/

/-- Line endings of a file as it is read: a carriage return, alone or before a line feed, reads
as one line feed. -/
def normalizeNewlines : List Char → List Char
  | [] => []
  | '\r' :: '\n' :: rest => '\n' :: normalizeNewlines rest
  | c :: rest => (if c = '\r' then '\n' else c) :: normalizeNewlines rest

def isLineBoundary (c : Char) : Bool :=
  c == '\n' || c == '\r' || c == '\x0b' || c == '\x0c' || c == '\x1c' || c == '\x1d' ||
    c == '\x1e' || c == '\u0085' || c == '\u2028' || c == '\u2029'

/-- The lines of a text whose current line so far is `line`, in reverse order.  A boundary ends
a line and belongs to none; a text that ends with one has no further line. -/
def splitLinesFrom (line : List Char) : List Char → List (List Char)
  | [] => if line.isEmpty then [] else [line.reverse]
  | '\r' :: '\n' :: rest => line.reverse :: splitLinesFrom [] rest
  | c :: rest =>
      if isLineBoundary c then line.reverse :: splitLinesFrom [] rest
      else splitLinesFrom (c :: line) rest

def splitLines (text : List Char) : List (List Char) := splitLinesFrom [] text

/-- Offsets of the line feeds of a text that starts at offset `start`, in ascending order. -/
def newlineOffsets (start : Nat) : List Char → List Nat
  | [] => []
  | c :: rest =>
      if c = '\n' then start :: newlineOffsets (start + 1) rest
      else newlineOffsets (start + 1) rest

/-- Where the line feeds of one text are. -/
structure LineIndex where
  newlines : List Nat

def LineIndex.ofText (text : List Char) : LineIndex := ⟨newlineOffsets 0 text⟩

/-- The 1-based number of the line that holds `offset`.  A line feed belongs to the line it ends,
an offset before the text to the first line and one behind the text to the last. -/
def LineIndex.lineOf (index : LineIndex) (offset : Int) : Nat :=
  (index.newlines.takeWhile fun (newline : Nat) => decide ((newline : Int) < offset)).length + 1

end AssetAudit.Text
