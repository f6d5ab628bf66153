import AssetAudit.Proofs.Text.Pieces
import AssetAudit.Text.Blank
import AssetAudit.Text.Lines
import Mathlib.Data.List.Infix

namespace AssetAudit.Text

/-! The two notions of a line.  A line that is cut out at all line boundaries is a part of one of
the lines between line feeds, and has the number of that line as long as no other boundary stands
in front of it. -/

/-- A line of a text whose lines end at all line boundaries, with what stands around it. -/
structure IsLine (text before line after : List Char) : Prop where
  cut : text = before ++ (line ++ after)
  unbroken : ∀ c ∈ line, isLineBoundary c = false
  begins : ∀ c ∈ before.getLast?, isLineBoundary c = true
  stops : ∀ c ∈ after.head?, isLineBoundary c = true

theorem IsLine.noNewline {text before line after : List Char}
    (isLine : IsLine text before line after) : '\n' ∉ line := by
  intro member
  have unbroken := isLine.unbroken '\n' member
  revert unbroken
  decide

theorem splitLinesFrom_nil (start : List Char) :
    splitLinesFrom start [] = if start.isEmpty then [] else [start.reverse] := rfl

theorem splitLinesFrom_cons (start text : List Char) {c : Char} (other : c ≠ '\r') :
    splitLinesFrom start (c :: text) =
      if isLineBoundary c then start.reverse :: splitLinesFrom [] text
      else splitLinesFrom (c :: start) text := by
  rw [splitLinesFrom.eq_def]
  split
  · contradiction
  · next _ same => exact absurd (List.cons.inj same).1 other
  · next _ same =>
      obtain ⟨rfl, rfl⟩ := List.cons.inj same
      rfl

/-- Without carriage returns each boundary is one character, and the lines are numbered by the
boundaries in front of them. -/
theorem isLine_of_splitLinesFrom {start text line : List Char} {index : Nat}
    (noReturn : '\r' ∉ text) (unbroken : ∀ c ∈ start, isLineBoundary c = false)
    (found : (splitLinesFrom start text)[index]? = some line) :
    ∃ before after, IsLine (start.reverse ++ text) before line after ∧
      before.countP isLineBoundary = index := by
  -- `start` is the line so far, which grows until a boundary ends it
  induction text generalizing start index with
  | nil =>
      rw [splitLinesFrom_nil] at found
      split at found
      · cases found
      · obtain ⟨rfl, rfl⟩ : index = 0 ∧ start.reverse = line := by
          cases index with
          | zero => exact ⟨rfl, Option.some.inj found⟩
          | succ index => cases found
        exact ⟨[], [], ⟨by simp, by simpa using unbroken, by simp, by simp⟩, rfl⟩
  | cons c text ih =>
      have other : c ≠ '\r' := fun same => noReturn (same ▸ List.mem_cons_self)
      have later : '\r' ∉ text := fun member => noReturn (List.mem_cons_of_mem c member)
      rw [splitLinesFrom_cons start text other] at found
      cases boundary : isLineBoundary c with
      | true =>
          rw [if_pos boundary] at found
          cases index with
          | zero =>
              obtain rfl := Option.some.inj found
              exact ⟨[], c :: text,
                ⟨rfl, by simpa using unbroken, by simp, by simpa using boundary⟩, rfl⟩
          | succ index =>
              obtain ⟨before, after, isLine, number⟩ := ih later (by simp) found
              have none : start.reverse.countP isLineBoundary = 0 :=
                List.countP_eq_zero.mpr fun d member => by
                  simp [unbroken d (List.mem_reverse.mp member)]
              refine ⟨start.reverse ++ c :: before, after,
                ⟨?_, isLine.unbroken, ?_, isLine.stops⟩, ?_⟩
              · rw [List.append_assoc, List.cons_append, ← isLine.cut]
                rfl
              · rw [List.getLast?_append, List.getLast?_cons]
                intro d last
                obtain rfl := Option.some.inj last
                cases final : before.getLast? with
                | none => exact boundary
                | some d => exact isLine.begins d final
              · rw [List.countP_append, none, List.countP_cons_of_pos boundary, number,
                  Nat.zero_add]
      | false =>
          rw [if_neg (by simp [boundary])] at found
          obtain ⟨before, after, isLine, number⟩ :=
            ih later (List.forall_mem_cons.mpr ⟨boundary, unbroken⟩) found
          rw [List.reverse_cons, List.append_assoc] at isLine
          exact ⟨before, after, isLine, number⟩

theorem isLine_of_splitLines {text line : List Char} {index : Nat} (noReturn : '\r' ∉ text)
    (found : (splitLines text)[index]? = some line) :
    ∃ before after, IsLine text before line after ∧ before.countP isLineBoundary = index :=
  isLine_of_splitLinesFrom noReturn (by simp) found

/-- Line feeds are line boundaries, among others. -/
theorem countP_isLineBoundary (text : List Char) :
    text.countP isLineBoundary =
      text.count '\n' + text.countP fun c => isLineBoundary c && c ≠ '\n' := by
  induction text with
  | nil => rfl
  | cons c text ih =>
      rw [List.countP_cons, List.count_cons, List.countP_cons, ih]
      by_cases feed : c = '\n'
      · subst feed
        have boundary : isLineBoundary '\n' = true := by decide
        simp [boundary]
        omega
      · simp [feed]
        omega

/-- No line boundary in the text is anything else than a line feed. -/
def BreaksAtFeeds (text : List Char) : Prop := ∀ c ∈ text, isLineBoundary c = true → c = '\n'

theorem countP_isLineBoundary_eq_count_iff (text : List Char) :
    text.countP isLineBoundary = text.count '\n' ↔ BreaksAtFeeds text := by
  rw [countP_isLineBoundary, Nat.add_eq_left, List.countP_eq_zero]
  refine forall₂_congr fun c _ => ?_
  simp

theorem pieces_append_plain {sep : Char} {plain : List Char} (absent : sep ∉ plain)
    {rest first : List Char} {others : List (List Char)}
    (cut : pieces sep rest = first :: others) :
    pieces sep (plain ++ rest) = (plain ++ first) :: others := by
  induction plain with
  | nil => exact cut
  | cons c plain ih =>
      have other : c ≠ sep := fun same => absent (same ▸ List.mem_cons_self)
      rw [List.cons_append, pieces, if_neg other,
        ih fun member => absent (List.mem_cons_of_mem c member)]
      rfl

/-- A part of a text without separators lies in the piece with the number of the separators in front
of it. -/
theorem piece_around {sep : Char} (before : List Char) {line : List Char} (plain : sep ∉ line)
    (after : List Char) :
    ∃ piece, (pieces sep (before ++ (line ++ after)))[before.count sep]? = some piece ∧
      line <:+: piece := by
  induction before with
  | nil =>
      have nonempty : pieces sep after ≠ [] := pieces_ne_nil after
      obtain ⟨first, others, cut⟩ := List.exists_cons_of_ne_nil nonempty
      refine ⟨line ++ first, ?_, (List.prefix_append line first).isInfix⟩
      rw [List.nil_append, pieces_append_plain plain cut]
      rfl
  | cons c before ih =>
      obtain ⟨piece, found, within⟩ := ih
      by_cases same : c = sep
      · refine ⟨piece, ?_, within⟩
        rw [List.cons_append, pieces, if_pos same, same, List.count_cons_self]
        exact found
      · have nonempty : pieces sep (before ++ (line ++ after)) ≠ [] := pieces_ne_nil _
        obtain ⟨first, others, cut⟩ := List.exists_cons_of_ne_nil nonempty
        rw [cut] at found
        rw [List.cons_append, pieces, if_neg same, cut, List.count_cons_of_ne same]
        cases number : before.count sep with
        | zero =>
            rw [number] at found
            obtain rfl := Option.some.inj found
            exact ⟨c :: first, rfl, within.trans (List.suffix_cons c first).isInfix⟩
        | succ number' =>
            rw [number] at found
            exact ⟨piece, found, within⟩

theorem splitLinesFrom_unbroken {line : List Char}
    (unbroken : ∀ c ∈ line, isLineBoundary c = false) (start rest : List Char) :
    splitLinesFrom start (line ++ rest) = splitLinesFrom (line.reverse ++ start) rest := by
  induction line generalizing start with
  | nil => rfl
  | cons c line ih =>
      obtain ⟨here, later⟩ := List.forall_mem_cons.mp unbroken
      have other : c ≠ '\r' := by
        rintro rfl
        exact absurd here (by decide)
      rw [List.cons_append, splitLinesFrom_cons _ _ other, if_neg (by simp [here]), ih later,
        List.reverse_cons, List.append_assoc, List.singleton_append]

theorem splitLines_append {line : List Char} (unbroken : ∀ c ∈ line, isLineBoundary c = false)
    (rest : List Char) : splitLines (line ++ '\n' :: rest) = line :: splitLines rest := by
  rw [splitLines, splitLinesFrom_unbroken unbroken, splitLinesFrom_cons _ _ (by decide),
    if_pos (by decide), List.append_nil, List.reverse_reverse, splitLines]

/-- Lines that are joined by line feeds are cut out again, up to an empty last one. -/
theorem splitLines_intercalate {lines : List (List Char)}
    (unbroken : ∀ line ∈ lines, ∀ c ∈ line, isLineBoundary c = false) :
    splitLines (['\n'].intercalate lines) = lines ∨
      splitLines (['\n'].intercalate lines) ++ [[]] = lines := by
  induction lines with
  | nil => exact Or.inl rfl
  | cons line rest ih =>
      obtain ⟨here, later⟩ := List.forall_mem_cons.mp unbroken
      cases rest with
      | nil =>
          have alone := splitLinesFrom_unbroken here [] []
          rw [List.append_nil, List.append_nil, splitLinesFrom_nil] at alone
          rw [List.intercalate_singleton, splitLines, alone, List.isEmpty_reverse,
            List.reverse_reverse]
          cases line with
          | nil => exact Or.inr rfl
          | cons c line => exact Or.inl rfl
      | cons next others =>
          rw [List.intercalate_cons_cons, List.append_assoc, List.singleton_append,
            splitLines_append here, List.cons_append, List.cons_inj_right, List.cons_inj_right]
          exact ih later

theorem unbroken_of_all {lines : List (List Char)}
    (checked : (lines.all fun line => line.all fun c => !isLineBoundary c) = true) :
    ∀ line ∈ lines, ∀ c ∈ line, isLineBoundary c = false := by
  simpa only [List.all_eq_true, Bool.not_eq_true'] using checked

theorem strip_infix (text : List Char) : strip text <:+: text := by
  have front : text.dropWhile isBlank <:+ text := List.dropWhile_suffix isBlank
  have back : strip text <+: text.dropWhile isBlank := by
    rw [strip, dropEndWhile, ← List.reverse_suffix, List.reverse_reverse]
    exact List.dropWhile_suffix isBlank
  exact back.isInfix.trans front.isInfix

end AssetAudit.Text
