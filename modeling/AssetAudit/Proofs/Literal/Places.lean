import AssetAudit.Proofs.Literal.Delimiters
import AssetAudit.Proofs.Literal.Found
import AssetAudit.Proofs.Pattern.Finding

namespace AssetAudit

/-! Where literals come from.  A literal is a piece of its text between two delimiters, unless it is
the templated name of a format call.  Its line is that on which the match of its rule begins. -/

theorem Capture.IsEnclosed.cut {opening closing : Char} {least : Nat} {capture : Capture}
    (enclosed : capture.IsEnclosed opening closing least) {start stop : Cursor}
    (lies : capture.LiesBetween start stop) :
    ∃ before after,
      start.text = before ++ opening :: (capture.chars ++ closing :: after) ∧
        start.offset ≤ before.length + 1 ∧
        before.length + 1 + capture.chars.length ≤ stop.offset := by
  obtain ⟨outer, opened⟩ := List.head?_eq_some_iff.mp enclosed.opened
  obtain ⟨after, closed⟩ := List.head?_eq_some_iff.mp enclosed.closed
  have passed := lies.passes
  have offset : capture.start.offset = outer.reverse.length + 1 := by
    rw [Cursor.offset, opened, List.length_cons, List.length_reverse]
  refine ⟨outer.reverse, after, ?_, offset ▸ lies.ahead.offset_le, ?_⟩
  · rw [← lies.ahead.text, Cursor.text, opened, passed.1, closed, List.reverse_cons,
      List.append_assoc]
    rfl
  · rw [← offset, ← passed.offset]
    exact lies.behind.offset_le

/-- A name of such a rule is one of the captures of the match. -/
theorem AccessRule.Encloses.capture {rule : AccessRule} {opening closing : Char}
    (encloses : rule.Encloses opening closing) {text : List Char} {found : Match}
    (member : found ∈ rule.pattern.findAll text) {name : String} (named : name ∈ rule.names found) :
    ∃ capture ∈ found.captures, capture.IsEnclosed opening closing 0 ∧
      name.toList = capture.chars ∧ name ≠ "" := by
  obtain ⟨-, reached, way, -, captures⟩ := Pattern.mem_findAll member
  rcases encloses with ⟨kind, makes⟩ | ⟨kind, count, makes⟩
  · obtain ⟨made, same, number, enclosed⟩ := makes _ reached way
    obtain ⟨capture, rfl⟩ := List.length_eq_one_iff.mp number
    rw [same, List.append_nil, List.reverse_singleton] at captures
    have only := enclosed capture (List.mem_singleton_self _)
    simp only [names, kind, List.mem_singleton, Match.capturedText, Match.captured, captures]
      at named
    refine ⟨capture, captures ▸ List.mem_singleton_self _, only.mono (Nat.zero_le 1), ?_, ?_⟩
    · rw [named]
      exact String.toList_ofList
    · rintro rfl
      have none := congrArg String.toList named
      have long := only.long
      simp at none
      simp [none] at long
  · obtain ⟨made, same, -, enclosed⟩ := makes _ reached way
    rw [same, List.append_nil] at captures
    simp only [names, kind, List.mem_filter, List.mem_map] at named
    obtain ⟨⟨capture, among, rfl⟩, likely⟩ := named
    refine ⟨capture, among, enclosed capture ?_, String.toList_ofList, ?_⟩
    · rw [captures] at among
      exact List.mem_reverse.mp among
    · intro empty
      rw [empty] at likely
      cases likely

namespace Literal

/-- The literal is a name that a match of one of the rules yields. -/
structure IsYield (literal : Literal) (category : Category) (text : List Char) (rule : AccessRule)
    (found : Match) : Prop where
  ofCategory : rule ∈ AccessRule.ofCategory category
  ruleName : literal.rule = rule.name
  matched : found ∈ rule.pattern.findAll text
  named : literal.text ∈ rule.names found
  /-- The line is one more than the line feeds in front of the match. -/
  line : literal.line = (text.take found.offset).count '\n' + 1

/-- The literal stands within the match, behind one delimiter and in front of the other one. -/
structure IsDelimited (literal : Literal) (category : Category) (text : List Char) (found : Match)
    (before after : List Char) : Prop where
  cut : text = before ++ category.opening :: (literal.text.toList ++ category.closing :: after)
  nonempty : literal.text ≠ ""
  plain : category.closing ∉ literal.text.toList
  starts : found.offset ≤ before.length + 1
  stops : before.length + 1 + literal.text.toList.length ≤ found.stop.offset
  /-- The line of a literal is not behind the one on which it stands. -/
  line : literal.line ≤ before.count '\n' + 1

theorem mem_ofText {category : Category} {text : String} {literal : Literal} :
    literal ∈ ofText category text ↔
      ∃ rule found, literal.IsYield category text.toList rule found := by
  constructor
  · intro member
    obtain ⟨rule, ofCategory, ofRule⟩ := List.mem_flatMap.mp member
    obtain ⟨found, matched, names⟩ := List.mem_flatMap.mp ofRule
    obtain ⟨name, named, rfl⟩ := List.mem_map.mp names
    exact ⟨rule, found, ofCategory, rfl, matched, named, Text.lineOf_ofText _ _⟩
  · rintro ⟨rule, found, yielded⟩
    refine List.mem_flatMap.mpr ⟨rule, yielded.ofCategory, List.mem_flatMap.mpr
      ⟨found, yielded.matched, List.mem_map.mpr ⟨literal.text, yielded.named, ?_⟩⟩⟩
    rw [Text.lineOf_ofText, ← yielded.line, ← yielded.ruleName]

end Literal

theorem Category.opening_ne_newline (category : Category) : category.opening ≠ '\n' := by
  cases category <;> decide

theorem Literal.IsYield.isDelimited {literal : Literal} {category : Category} {text : List Char}
    {rule : AccessRule} {found : Match} (yielded : literal.IsYield category text rule found)
    (noFormat : literal.rule ≠ "string-with-format") :
    ∃ before after, literal.IsDelimited category text found before after := by
  rw [yielded.ruleName] at noFormat
  have encloses := AccessRule.encloses_ofCategory category rule yielded.ofCategory noFormat
  obtain ⟨capture, among, enclosed, chars, nonempty⟩ :=
    encloses.capture yielded.matched yielded.named
  obtain ⟨before, after, cut, (starts : found.offset ≤ before.length + 1), stops⟩ :=
    enclosed.cut (Pattern.liesBetween_of_mem_captures yielded.matched among)
  rw [(Pattern.mem_findAll yielded.matched).1, ← chars] at cut
  rw [← chars] at stops
  refine ⟨before, after, cut, nonempty, chars ▸ enclosed.plain, starts, stops, ?_⟩
  -- the match may begin at the opening delimiter, but not behind it, and that ends no line
  have upTo : text.take found.offset <+: before ++ [category.opening] := by
    have whole : (before ++ [category.opening]).length = before.length + 1 := List.length_append
    rw [cut, ← List.singleton_append, ← List.append_assoc, List.take_append_of_le_length (by omega)]
    exact List.take_prefix _ _
  have fewer := upTo.sublist.count_le '\n'
  have plain : (category.opening == '\n') = false :=
    beq_eq_false_iff_ne.mpr category.opening_ne_newline
  rw [List.count_append, List.count_singleton, plain] at fewer
  rw [yielded.line]
  exact Nat.add_le_add_right fewer 1

theorem AccessRule.names_ofCategory_nodup (category : Category) :
    ((ofCategory category).map AccessRule.name).Nodup := by
  cases category <;> decide

theorem Literal.ofRule_lines (text : List Char) (rule : AccessRule) :
    (ofRule (Text.LineIndex.ofText text) text rule).Pairwise fun first second =>
      first.line ≤ second.line := by
  refine List.pairwise_flatMap.mpr ⟨fun found _ => ?_, ?_⟩
  · exact List.pairwise_map.mpr (List.pairwise_of_forall fun _ _ => Nat.le_refl _)
  · refine (Pattern.findAll_ascending rule.pattern text).imp ?_
    intro first second offsets literal member other among
    obtain ⟨_, _, rfl⟩ := List.mem_map.mp member
    obtain ⟨_, _, rfl⟩ := List.mem_map.mp among
    exact Text.lineOf_mono text (Int.ofNat_le.mpr (Nat.le_of_lt offsets))

/-- A rule finds its literals line by line. -/
theorem Literal.lines_ascending (category : Category) (text name : String) :
    ((ofText category text).filter (·.rule = name)).Pairwise fun first second =>
      first.line ≤ second.line := by
  rw [filter_rule]
  refine List.pairwise_flatMap.mpr ⟨fun rule _ => ofRule_lines text.toList rule, ?_⟩
  -- no two rules of a category have one name
  have distinct := List.pairwise_map.mp (AccessRule.names_ofCategory_nodup category)
  refine (distinct.filter _).imp_of_mem fun {rule other} member among different => ?_
  have here := of_decide_eq_true (List.mem_filter.mp member).2
  have there := of_decide_eq_true (List.mem_filter.mp among).2
  exact absurd (here.trans there.symm) different

/-- No literal is invented.  Each is yielded by a match of its rule, on whose first line it is
reported, and stands within the match between two delimiters, unless it is the templated name of a
format call.  The lines of a rule do not descend. -/
theorem literals_stand_in_text (category : Category) (text : String) :
    (∀ literal ∈ Literal.ofText category text, ∃ rule found,
      literal.IsYield category text.toList rule found ∧
        (literal.rule ≠ "string-with-format" → ∃ before after,
          literal.IsDelimited category text.toList found before after)) ∧
    ∀ name, ((Literal.ofText category text).filter (·.rule = name)).Pairwise fun first second =>
      first.line ≤ second.line := by
  refine ⟨fun literal member => ?_, Literal.lines_ascending category text⟩
  obtain ⟨rule, found, yielded⟩ := Literal.mem_ofText.mp member
  exact ⟨rule, found, yielded, yielded.isDelimited⟩

/-- A call on two lines, with its name on the second one. -/
def brokenCall : String := "\nImage(\n\"logo\")"

theorem brokenCall_literal_stands :
    ⟨"swiftui-image", "logo", 2⟩ ∈ Literal.ofText .swift brokenCall ∧
      "swiftui-image" ≠ "string-with-format" ∧
      ∃ rule found before after,
        Literal.IsYield ⟨"swiftui-image", "logo", 2⟩ .swift brokenCall.toList rule found ∧
          Literal.IsDelimited ⟨"swiftui-image", "logo", 2⟩ .swift brokenCall.toList found before
            after := by
  have member : ⟨"swiftui-image", "logo", 2⟩ ∈ Literal.ofText .swift brokenCall := by
    decide +kernel
  have noFormat : "swiftui-image" ≠ "string-with-format" := by decide
  obtain ⟨rule, found, yielded, delimited⟩ :=
    (literals_stand_in_text .swift brokenCall).1 _ member
  obtain ⟨before, after, stands⟩ := delimited noFormat
  exact ⟨member, noFormat, rule, found, before, after, yielded, stands⟩

end AssetAudit
