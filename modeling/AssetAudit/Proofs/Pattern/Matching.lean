import AssetAudit.Pattern.Search

namespace AssetAudit.Pattern

/-! What a pattern matches as a whole, and how a text is cut at its matches. -/

/-- The pattern can match the whole text. -/
def Matches (pattern : Pattern) (text : List Char) : Prop :=
  ∃ reached ∈ pattern.ends ⟨Cursor.atStart text, []⟩, reached.cursor.rest = []

instance (pattern : Pattern) : DecidablePred pattern.Matches := fun text =>
  inferInstanceAs
    (Decidable (∃ reached ∈ pattern.ends ⟨Cursor.atStart text, []⟩, reached.cursor.rest = []))

theorem skip?_eq_some {piece : List Char} {cursor reached : Cursor} :
    cursor.skip? piece = some reached ↔
      cursor.rest = piece ++ reached.rest ∧ reached.before = piece.reverse ++ cursor.before := by
  induction piece generalizing cursor with
  | nil =>
      obtain ⟨before, rest⟩ := cursor
      obtain ⟨_, _⟩ := reached
      simp only [Cursor.skip?, Option.some.injEq, Cursor.mk.injEq, List.nil_append,
        List.reverse_nil]
      constructor
      · intro found
        obtain ⟨rfl, rfl⟩ := found
        exact ⟨rfl, rfl⟩
      · intro found
        obtain ⟨rfl, rfl⟩ := found
        exact ⟨rfl, rfl⟩
  | cons c piece ih =>
      obtain ⟨before, rest⟩ := cursor
      cases rest with
      | nil => simp [Cursor.skip?, Cursor.advance?]
      | cons d rest =>
          by_cases same : d = c
          · simp [Cursor.skip?, Cursor.advance?, same, ih]
          · simp [Cursor.skip?, Cursor.advance?, same]

variable {progress reached : Progress}

theorem mem_ends_char {accepts : Char → Bool} :
    reached ∈ (char accepts).ends progress ↔
      ∃ c, accepts c = true ∧ progress.cursor.rest = c :: reached.cursor.rest ∧
        reached.cursor.before = c :: progress.cursor.before ∧
        reached.captures = progress.captures := by
  obtain ⟨⟨before, rest⟩, captures⟩ := progress
  obtain ⟨⟨beforeReached, restReached⟩, capturesReached⟩ := reached
  cases rest with
  | nil => simp [ends, Cursor.advance?]
  | cons c rest =>
      by_cases accepted : accepts c = true
      · have moved : (char accepts).ends ⟨⟨before, c :: rest⟩, captures⟩ =
            [⟨⟨c :: before, rest⟩, captures⟩] := by
          simp [ends, Cursor.advance?, accepted]
        rw [moved, List.mem_singleton]
        constructor
        · intro same
          cases same
          exact ⟨c, accepted, rfl, rfl, rfl⟩
        · intro found
          obtain ⟨_, _, tail, behind, kept⟩ := found
          dsimp only at tail behind kept
          obtain ⟨rfl, rfl⟩ := List.cons.inj tail
          rw [behind, kept]
      · have stuck : (char accepts).ends ⟨⟨before, c :: rest⟩, captures⟩ = [] := by
          simp [ends, Cursor.advance?, accepted]
        rw [stuck]
        constructor
        · intro none
          cases none
        · intro found
          obtain ⟨_, taken, tail, _⟩ := found
          cases tail
          exact absurd taken accepted

theorem mem_ends_text {piece : String} :
    reached ∈ (text piece).ends progress ↔
      progress.cursor.rest = piece.toList ++ reached.cursor.rest ∧
        reached.cursor.before = piece.toList.reverse ++ progress.cursor.before ∧
        reached.captures = progress.captures := by
  obtain ⟨cursor, captures⟩ := reached
  simp only [ends, Option.mem_toList, Option.map_eq_some_iff, Progress.mk.injEq, skip?_eq_some]
  constructor
  · intro found
    obtain ⟨_, moved, rfl, rfl⟩ := found
    exact ⟨moved.1, moved.2, rfl⟩
  · intro found
    obtain ⟨rest, before, rfl⟩ := found
    exact ⟨cursor, ⟨rest, before⟩, rfl, rfl⟩

theorem mem_ends_seq {first second : Pattern} :
    reached ∈ (seq first second).ends progress ↔
      ∃ middle ∈ first.ends progress, reached ∈ second.ends middle :=
  List.mem_flatMap

theorem mem_ends_either {first second : Pattern} :
    reached ∈ (either first second).ends progress ↔
      reached ∈ first.ends progress ∨ reached ∈ second.ends progress :=
  List.mem_append

theorem mem_ends_optional {body : Pattern} :
    reached ∈ (optional body).ends progress ↔
      reached ∈ body.ends progress ∨ reached = progress := by
  simp [ends]

variable {pattern : Pattern}

theorem cutFrom_skip (before piece consumed rest : List Char) :
    cutFrom pattern consumed.length before piece (consumed ++ rest) =
      cutFrom pattern 0 (consumed.reverse ++ before) piece rest := by
  induction consumed generalizing before with
  | nil => rfl
  | cons c consumed ih =>
      rw [List.length_cons, List.cons_append, cutFrom, ih, List.reverse_cons, List.append_assoc,
        List.singleton_append]

theorem cutFrom_unmatched {text : List Char}
    (unmatched : ∀ c ∈ text, ∀ before rest, pattern.matchAt? ⟨before, c :: rest⟩ = none)
    (before piece rest : List Char) :
    cutFrom pattern 0 before piece (text ++ rest) =
      cutFrom pattern 0 (text.reverse ++ before) (text.reverse ++ piece) rest := by
  induction text generalizing before piece with
  | nil => rfl
  | cons c text ih =>
      rw [List.cons_append, cutFrom, unmatched c (by simp)]
      simp only [ih fun d member => unmatched d (by simp [member]), List.reverse_cons,
        List.append_assoc, List.singleton_append]

theorem cutFrom_matched {before piece rest consumed : List Char} {c : Char}
    (matched : (pattern.matchAt? ⟨before, c :: (consumed ++ rest)⟩).map Match.length =
      some (consumed.length + 1)) :
    cutFrom pattern 0 before piece (c :: (consumed ++ rest)) =
      piece.reverse :: cutFrom pattern 0 ((c :: consumed).reverse ++ before) [] rest := by
  obtain ⟨found, here, length⟩ := Option.map_eq_some_iff.mp matched
  rw [cutFrom, here]
  simp only [length, Nat.add_sub_cancel, cutFrom_skip, List.reverse_cons, List.append_assoc,
    List.singleton_append]

end AssetAudit.Pattern
