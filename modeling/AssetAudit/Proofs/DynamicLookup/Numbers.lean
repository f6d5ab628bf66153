import AssetAudit.DynamicLookup
import AssetAudit.Proofs.Literal.Places
import AssetAudit.Proofs.Text.Lines

namespace AssetAudit

/-! Lines on which lookups are reported.  A lookup is numbered by the line boundaries in front of
it and a literal by the line feeds, so their numbers agree as far as line feeds are the only
boundaries. -/

namespace Text

/-- All offsets of a line, the one behind it included, have one number. -/
theorem IsLine.lineOf {text before line after : List Char}
    (isLine : IsLine text before line after) {offset : Nat} (starts : before.length ≤ offset)
    (stops : offset ≤ before.length + line.length) :
    (LineIndex.ofText text).lineOf offset = before.count '\n' + 1 := by
  rw [isLine.cut]
  exact lineOf_within isLine.noNewline starts stops

end Text

namespace DynamicLookup

theorem mem_ofLines {file : String} {number : Nat} {lines : List (List Char)}
    {found : DynamicLookup} :
    found ∈ ofLines file number lines ↔
      ∃ index line, lines[index]? = some line ∧ found ∈ ofLine file (number + index) line := by
  induction lines generalizing number with
  | nil => simp [ofLines]
  | cons first rest ih =>
      rw [ofLines, List.mem_append, ih]
      constructor
      · rintro (here | ⟨index, line, numbered, later⟩)
        · exact ⟨0, first, rfl, here⟩
        · exact ⟨index + 1, line, numbered, by rwa [Nat.add_right_comm] at later⟩
      · rintro ⟨_ | index, line, numbered, member⟩
        · obtain rfl := Option.some.inj numbered
          exact Or.inl member
        · exact Or.inr ⟨index, line, numbered, by rwa [Nat.add_right_comm]⟩

/-- The line that a lookup was found on, with what stands around it. -/
structure IsOnLine (found : DynamicLookup) (text before line after : List Char) : Prop where
  isLine : Text.IsLine text before line after
  snippet : found.snippet = String.ofList (Text.strip line)
  number : found.line = before.countP Text.isLineBoundary + 1

theorem isOnLine_of_mem_ofSource {source : SourceFile} (noReturn : '\r' ∉ source.text.toList)
    {found : DynamicLookup} (member : found ∈ ofSource source) :
    ∃ before line after, found.IsOnLine source.text.toList before line after := by
  rw [ofSource] at member
  split at member
  · obtain ⟨index, line, numbered, ofLine⟩ := mem_ofLines.mp member
    obtain ⟨form, _, rfl⟩ := List.mem_map.mp ofLine
    obtain ⟨before, after, isLine, rfl⟩ := Text.isLine_of_splitLines noReturn numbered
    exact ⟨before, line, after, isLine, rfl, Nat.add_comm _ _⟩
  · cases member

end DynamicLookup

/-- The snippet of a lookup is a part of the line between line feeds on which it stands.  All
literals whose matches begin on that line have its number; the lookup has it just if no line
boundary in front of it is anything else than a line feed. -/
theorem dynamicLookup_line_iff {source : SourceFile} (noReturn : '\r' ∉ source.text.toList)
    {found : DynamicLookup} (member : found ∈ DynamicLookup.ofSource source) :
    ∃ before line after number, found.IsOnLine source.text.toList before line after ∧
      (∀ offset : Nat, before.length ≤ offset → offset ≤ before.length + line.length →
        (Text.LineIndex.ofText source.text.toList).lineOf offset = number) ∧
      (∃ numbered, (Text.pieces '\n' source.text.toList)[number - 1]? = some numbered ∧
        found.snippet.toList <:+: numbered) ∧
      (∀ literal rule begun,
        Literal.IsYield literal source.category source.text.toList rule begun →
          before.length ≤ begun.offset → begun.offset ≤ before.length + line.length →
            literal.line = number) ∧
      (found.line = number ↔ Text.BreaksAtFeeds before) := by
  obtain ⟨before, line, after, onLine⟩ := DynamicLookup.isOnLine_of_mem_ofSource noReturn member
  refine ⟨before, line, after, before.count '\n' + 1, onLine,
    fun _ starts stops => onLine.isLine.lineOf starts stops, ?_,
    fun literal rule begun yielded starts stops => ?_, ?_⟩
  · obtain ⟨numbered, cut, within⟩ := Text.piece_around before onLine.isLine.noNewline after
    rw [← onLine.isLine.cut] at cut
    refine ⟨numbered, cut, ?_⟩
    rw [onLine.snippet, String.toList_ofList]
    exact (Text.strip_infix line).trans within
  · rw [yielded.line, ← Text.lineOf_ofText, onLine.isLine.lineOf starts stops]
  · rw [onLine.number, Nat.add_right_cancel_iff]
    exact Text.countP_isLineBoundary_eq_count_iff before

/-- A source with a form feed in front of its only line of code. -/
def pagedSource : SourceFile := ⟨"Home.swift", .swift, "\x0cImage(\"logo\"); Image(name)"⟩

/-- The lookup is reported on the second line and the literal beside it on the first. -/
theorem pagedSource_lookup_misnumbered :
    '\r' ∉ pagedSource.text.toList ∧
      ⟨"Home.swift", 2, "Variable-based Image loading", "Image(\"logo\"); Image(name)"⟩ ∈
        DynamicLookup.ofSource pagedSource ∧
      ⟨"swiftui-image", "logo", 1⟩ ∈ Literal.ofText .swift pagedSource.text ∧
      ∃ before line after number,
        DynamicLookup.IsOnLine
            ⟨"Home.swift", 2, "Variable-based Image loading", "Image(\"logo\"); Image(name)"⟩
            pagedSource.text.toList before line after ∧
          (∃ numbered, (Text.pieces '\n' pagedSource.text.toList)[number - 1]? = some numbered ∧
            "Image(\"logo\"); Image(name)".toList <:+: numbered) ∧
          ¬ Text.BreaksAtFeeds before ∧ 2 ≠ number := by
  have noReturn : '\r' ∉ pagedSource.text.toList := by decide
  have member : ⟨"Home.swift", 2, "Variable-based Image loading",
      "Image(\"logo\"); Image(name)"⟩ ∈ DynamicLookup.ofSource pagedSource := by decide +kernel
  have literal : ⟨"swiftui-image", "logo", 1⟩ ∈ Literal.ofText .swift pagedSource.text := by
    decide +kernel
  obtain ⟨before, line, after, number, onLine, -, piece, -, agrees⟩ :=
    dynamicLookup_line_iff noReturn member
  -- the text is one line between line feeds
  have one : (Text.pieces '\n' pagedSource.text.toList).length = 1 := by decide
  obtain ⟨numbered, found, within⟩ := piece
  have inside : number - 1 < 1 := one ▸ (List.getElem?_eq_some_iff.mp found).1
  have different : 2 ≠ number := by omega
  exact ⟨noReturn, member, literal, before, line, after, number, onLine,
    ⟨numbered, found, within⟩, fun feeds => different (agrees.mpr feeds), different⟩

end AssetAudit
