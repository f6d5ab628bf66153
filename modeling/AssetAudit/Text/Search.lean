namespace AssetAudit.Text

/-! Finding pieces of a text and cutting it at them. -/

/-- Does `piece` occur anywhere in the text? -/
def occursIn (piece : List Char) : List Char → Bool
  | [] => piece.isEmpty
  | c :: rest => piece.isPrefixOf (c :: rest) || occursIn piece rest

theorem occursIn_iff {piece text : List Char} : occursIn piece text = true ↔ piece <:+: text := by
  induction text with
  | nil => simp [occursIn]
  | cons c rest ih =>
      rw [occursIn, Bool.or_eq_true, List.isPrefixOf_iff_prefix, ih, List.infix_cons_iff]

/-- The text up to the first `sep`, or all of it. -/
def beforeFirst (sep : Char) (text : List Char) : List Char :=
  text.takeWhile (· ≠ sep)

/-- The text behind the last `sep`, or all of it. -/
def afterLast (sep : Char) (text : List Char) : List Char :=
  (text.reverse.takeWhile (· ≠ sep)).reverse

/-- The text up to the last `sep`, or all of it. -/
def beforeLast (sep : Char) (text : List Char) : List Char :=
  match text.reverse.dropWhile (· ≠ sep) with
  | [] => text
  | _ :: before => before.reverse

/-- The text up to the first occurrence of `piece`, or all of it. -/
def beforePiece (piece : List Char) : List Char → List Char
  | [] => []
  | c :: rest => if piece.isPrefixOf (c :: rest) then [] else c :: beforePiece piece rest

/-- The pieces of a text between its separators, one more than there are separators. -/
def pieces (sep : Char) : List Char → List (List Char)
  | [] => [[]]
  | c :: rest =>
      if c = sep then [] :: pieces sep rest
      else
        match pieces sep rest with
        | [] => [[c]]
        | piece :: others => (c :: piece) :: others

end AssetAudit.Text
