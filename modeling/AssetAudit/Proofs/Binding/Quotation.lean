import AssetAudit.Proofs.Binding.Elements
import AssetAudit.Proofs.Pattern.Analysis

namespace AssetAudit.ArrayForm

/-! The texts in double quotes that a rule for constants takes from the declaration of an array. -/

variable {form : ArrayForm} {name : String} {items : List String}

/-- What stands between the quotes of two elements. -/
def between (form : ArrayForm) : List Char := [',', ' '] ++ form.mark.toList

theorem between_plain (form : ArrayForm) : '"' ∉ form.between ∧ ']' ∉ form.between := by
  cases form with
  | swift => decide
  | objectiveC => decide

/-- What is left of the declaration where `items` are still to come. -/
def remaining (form : ArrayForm) (items : List String) : List Char :=
  (form.written items).toList ++ form.closing.toList

theorem remaining_nil (form : ArrayForm) : '"' ∉ form.remaining [] := by
  cases form with
  | swift => decide
  | objectiveC => decide

theorem remaining_cons (form : ArrayForm) (item : String) (items : List String) :
    form.remaining (item :: items) = form.mark.toList ++
      '"' :: (item.toList ++ '"' :: (gap items ++ form.remaining items)) := by
  simp [remaining, written_cons, quoted_chars]

theorem unquoted_mark {lead : List Char} (plain : '"' ∉ lead) : '"' ∉ lead ++ form.mark.toList := by
  simp [plain, form.mark_plain.2]

theorem unquoted_gap (items : List String) : '"' ∉ gap items := by
  cases items <;> simp [gap]

theorem gap_of_quote (quote : '"' ∈ gap items ++ form.remaining items) :
    gap items ++ form.mark.toList = form.between := by
  cases items with
  | nil => exact absurd quote (by simp [gap, form.remaining_nil])
  | cons item items => rfl

/-- A text between two quotes, with none in it, stands behind the first quote or behind what stands
between elements, or is such a text itself. -/
theorem quotes_cut {front value back lead : List Char} (plainLead : '"' ∉ lead)
    (plain : ∀ item ∈ items, '"' ∉ item.toList) (within : '"' ∉ value)
    (same : front ++ '"' :: (value ++ '"' :: back) = lead ++ form.remaining items) :
    front = lead ++ form.mark.toList ∨ value = form.between ∨
      Text.afterLast '"' front = form.between := by
  induction items generalizing front lead with
  | nil =>
      have quote : '"' ∈ lead ++ form.remaining [] := same ▸ by simp
      exact absurd quote (by simp [plainLead, form.remaining_nil])
  | cons item items ih =>
      obtain ⟨plainItem, plainItems⟩ := List.forall_mem_cons.mp plain
      rw [remaining_cons, ← List.append_assoc] at same
      by_cases behind : '"' ∈ front
      · obtain ⟨opening, inside, rfl, first⟩ := List.eq_append_cons_of_mem behind
        rw [List.append_assoc, List.cons_append] at same
        obtain ⟨rfl, behindOpening⟩ := Text.eq_of_first_cut first (unquoted_mark plainLead) same
        rw [Text.afterLast_append_cons]
        -- the text begins at the closing quote of this element or further behind
        by_cases further : '"' ∈ inside
        · obtain ⟨element, later, rfl, first⟩ := List.eq_append_cons_of_mem further
          rw [List.append_assoc, List.cons_append] at behindOpening
          obtain ⟨rfl, rest⟩ := Text.eq_of_first_cut first plainItem behindOpening
          rw [Text.afterLast_append_cons]
          have quote : '"' ∈ gap items ++ form.remaining items := rest ▸ by simp
          rcases ih (unquoted_gap items) plainItems rest with rfl | found | found
          · right
            right
            rw [gap_of_quote quote, Text.afterLast_plain form.between_plain.1]
          · exact Or.inr (Or.inl found)
          · exact Or.inr (Or.inr found)
        · obtain ⟨rfl, rest⟩ := Text.eq_of_first_cut further plainItem behindOpening
          have quote : '"' ∈ gap items ++ form.remaining items := rest ▸ by simp
          refine Or.inr (Or.inl ?_)
          cases items with
          | nil => exact absurd quote (by simp [gap, form.remaining_nil])
          | cons next items =>
              rw [remaining_cons, ← List.append_assoc] at rest
              exact (Text.eq_of_first_cut within form.between_plain.1 rest).1
      · exact Or.inl (Text.eq_of_first_cut behind (unquoted_mark plainLead) same).1

theorem source_chars (form : ArrayForm) (path name : String) (items : List String) :
    (form.source path name items).text.toList =
      (form.lead name).toList ++ form.remaining items := by
  simp [source, remaining]

theorem unquoted_lead (isName : IsName name) : '"' ∉ (form.lead name).toList := by
  have absent := isName.not_mem (c := '"') rfl
  cases form with
  | swift => simp [lead, absent]
  | objectiveC => simp [lead, absent]

theorem lead_bracket (form : ArrayForm) (name : String) :
    ∃ text, (form.lead name).toList = text ++ ['['] := by
  cases form with
  | swift => exact ⟨("let " ++ name ++ ": [String] = ").toList, by simp [lead]⟩
  | objectiveC => exact ⟨("NSArray *" ++ name ++ " = @").toList, by simp [lead]⟩

section Constants

open Pattern BindingRule

/-- The rules behind the one for arrays. -/
def constants (form : ArrayForm) : List BindingRule :=
  (BindingRule.ofCategory form.category).tail

/-- What those rules take in front of the quotes. -/
def constantHeaders : ArrayForm → List (List Pattern)
  | swift => [
      [declared, ":", .blanks, "String", .blanks, "=", .run fun c => c ≠ '\n' && c ≠ '"'],
      [declared, "=", .blanks],
      ["case", .someBlanks, .capture .word, .blanks, "=", .blanks]]
  | objectiveC => [
      ["NSString", .blanks, pointer, "@"],
      ["#define", .someBlanks, .capture .word, .someBlanks, "@"]]

theorem constants_patterns (form : ArrayForm) :
    form.constants.map (fun rule => (rule.pattern, rule.shape)) =
      form.constantHeaders.map fun header => (sequence (header ++ [quotedLine]), .text) := by
  cases form with
  | swift => rfl
  | objectiveC => rfl

theorem constantHeaders_checked (form : ArrayForm) :
    ∀ header ∈ form.constantHeaders, header ≠ [] ∧ (sequence header).captureCount? = some 1 ∧
      (sequence header).avoids '"' = true ∧ 4 ≤ (sequence header).leastLength := by
  cases form with
  | swift => decide
  | objectiveC => decide

/-- A header of four characters without a bracket does not reach back to the opening bracket. -/
theorem not_opening_of_avoids {header : Pattern} (avoids : header.avoids '[' = true)
    (long : 4 ≤ header.leastLength) {progress reached : Progress}
    (member : reached ∈ header.ends progress) :
    reached.cursor.before.reverse ≠ (form.lead name).toList ++ form.mark.toList := by
  intro same
  obtain ⟨taken, passed, absent, least⟩ := takes_of_avoids avoids progress reached member
  obtain ⟨text, lead⟩ := form.lead_bracket name
  rw [passed.2, List.reverse_append, List.reverse_reverse, lead, List.append_assoc] at same
  have short : ('[' :: form.mark.toList).length ≤ 2 := by
    cases form with
    | swift => decide
    | objectiveC => decide
  have atEnd : '[' :: form.mark.toList <:+ progress.cursor.before.reverse ++ taken := by
    rw [same]
    exact List.suffix_append _ _
  have inTaken : '[' :: form.mark.toList <:+ taken :=
    List.suffix_of_suffix_length_le atEnd (List.suffix_append _ _) (by omega)
  exact absent '[' (inTaken.subset (by simp)) rfl

/-- The sign behind the name of an array is not followed by the type of a single text. -/
theorem typed_not_opening (isName : IsName name) {rest : List Pattern} (nonempty : rest ≠ [])
    {progress reached : Progress}
    (member : reached ∈ (sequence (declared :: ":" :: blanks :: "String" :: rest)).ends progress) :
    reached.cursor.before.reverse ≠ (lead name .swift).toList := by
  intro same
  obtain ⟨next, others, rfl⟩ := List.exists_cons_of_ne_nil nonempty
  obtain ⟨named, _, typed⟩ := mem_ends_seq.mp member
  obtain ⟨signed, sign, further⟩ := mem_ends_seq.mp typed
  obtain ⟨spaced, gap, string⟩ := mem_ends_seq.mp further
  obtain ⟨worded, type, behind⟩ := mem_ends_seq.mp string
  obtain ⟨taken, blank, gapPassed, _⟩ := passes_of_mem_run gap
  obtain ⟨piece, piecePassed⟩ := (leads_of_mem_ends behind).forward
  have signBefore := (passes_of_mem_text sign).1.2
  have typeBefore := (passes_of_mem_text type).1.2
  have lead : (ArrayForm.lead name .swift).toList =
      ("let ".toList ++ name.toList) ++ ':' :: " [String] = [".toList := by simp [ArrayForm.lead]
  have noColon : ':' ∉ "let ".toList ++ name.toList := by simp [isName.not_mem (c := ':') rfl]
  rw [lead, piecePassed.2, typeBefore, gapPassed.2, signBefore] at same
  simp only [List.reverse_append, List.reverse_reverse, List.append_assoc] at same
  have tail : " [String] = [".toList = taken ++ ("String".toList ++ piece) :=
    ((List.append_cons_inj_of_notMem noColon (by decide)).mp same.symm).2.2
  have visible := congrArg (List.dropWhile Text.isBlank) tail
  rw [List.dropWhile_append_of_pos blank] at visible
  cases visible

theorem not_opening (isName : IsName name) {header : List Pattern}
    (among : header ∈ form.constantHeaders) {progress reached : Progress}
    (member : reached ∈ (sequence header).ends progress) :
    reached.cursor.before.reverse ≠ (form.lead name).toList ++ form.mark.toList := by
  obtain ⟨-, -, -, long⟩ := form.constantHeaders_checked header among
  cases form with
  | swift =>
      simp only [constantHeaders, List.mem_cons, List.not_mem_nil, or_false] at among
      rcases among with rfl | rfl | rfl
      · have other := typed_not_opening isName (by simp) member
        simpa [mark] using other
      · exact not_opening_of_avoids rfl long member
      · exact not_opening_of_avoids rfl long member
  | objectiveC =>
      simp only [constantHeaders, List.mem_cons, List.not_mem_nil, or_false] at among
      rcases among with rfl | rfl
      · exact not_opening_of_avoids rfl long member
      · exact not_opening_of_avoids rfl long member

/-- All that a rule for constants takes is what stands between the quotes of two elements. -/
theorem captured_constant (isName : IsName name) (plain : ∀ item ∈ items, '"' ∉ item.toList)
    {path : String} {rule : BindingRule} (among : rule ∈ form.constants) {found : Match}
    (member : found ∈ rule.pattern.findAll (form.source path name items).text.toList) :
    rule.shape = .text ∧ found.captured 1 = form.between := by
  obtain ⟨header, known, same⟩ : ∃ header ∈ form.constantHeaders,
      (sequence (header ++ [quotedLine]), BindingShape.text) = (rule.pattern, rule.shape) := by
    rw [← List.mem_map, ← constants_patterns]
    exact List.mem_map_of_mem among
  obtain ⟨pattern, shape⟩ := Prod.mk.inj same
  obtain ⟨nonempty, counted, unquoted, long⟩ := form.constantHeaders_checked header known
  rw [← pattern] at member
  obtain ⟨inText, accepted, middle, way, passed⟩ := enclosed_of_mem_findAll nonempty counted member
  obtain ⟨taken, before, absent, least⟩ := takes_of_avoids unquoted _ _ way
  refine ⟨shape.symm, ?_⟩
  have within : '"' ∉ found.captured 1 := by
    intro quote
    simpa using accepted '"' quote
  have text : middle.cursor.before.reverse ++ '"' :: (found.captured 1 ++ '"' :: found.stop.rest) =
      (form.lead name).toList ++ form.remaining items := by
    have whole := before.text
    rw [inText, source_chars, Cursor.text, passed.1] at whole
    simpa using whole
  rcases quotes_cut (unquoted_lead isName) plain within text with opening | between | behind
  · exact absurd opening (not_opening isName known way)
  · exact between
  · -- what the rule takes in front of the quotes is longer than that
    have plainTaken : '"' ∉ taken := fun quote => absent '"' quote rfl
    rw [before.2, List.reverse_append, List.reverse_reverse,
      Text.afterLast_append_plain _ plainTaken] at behind
    have short : form.between.length ≤ 3 := by
      cases form with
      | swift => decide
      | objectiveC => decide
    rw [← behind, List.length_append] at short
    omega

end Constants

end AssetAudit.ArrayForm
