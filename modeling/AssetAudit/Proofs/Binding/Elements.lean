import AssetAudit.Proofs.Binding.Exclusion
import AssetAudit.Proofs.Pattern.Reading
import AssetAudit.Proofs.Text.Pieces

namespace AssetAudit

/-! The elements of an array as they are written and as they are found.  Those in front of the first
closing square bracket are found, whatever stands behind it. -/

/-- The ways to declare an array of texts. -/
inductive ArrayForm where
  | swift
  | objectiveC
deriving DecidableEq

/-- A text that needs no escapes in double quotes. -/
def IsElement (item : String) : Prop :=
  '"' ∉ item.toList ∧ '\\' ∉ item.toList ∧ '\n' ∉ item.toList

instance : DecidablePred IsElement := fun item =>
  inferInstanceAs (Decidable ('"' ∉ item.toList ∧ '\\' ∉ item.toList ∧ '\n' ∉ item.toList))

/-- A word of letters, digits and underscores. -/
def IsName (name : String) : Prop := name ≠ "" ∧ ∀ c ∈ name.toList, Text.isWord c = true

instance : DecidablePred IsName := fun name =>
  decidable_of_iff (name ≠ "" ∧ name.toList.all Text.isWord = true) (by simp [IsName])

theorem IsName.not_mem {name : String} (isName : IsName name) {c : Char}
    (noWord : Text.isWord c = false) : c ∉ name.toList := by
  intro member
  rw [isName.2 c member] at noWord
  cases noWord

theorem IsName.visible {name : String} (isName : IsName name) (tail : List Char) :
    ∀ c ∈ (name.toList ++ tail).head?, Text.isBlank c = false := by
  obtain ⟨c, letters, same⟩ :=
    List.exists_cons_of_ne_nil (String.toList_eq_nil_iff.not.mpr isName.1)
  have isWord := isName.2 c (by simp [same])
  rw [same]
  rintro d ⟨⟩
  cases blank : Text.isBlank c with
  | false => rfl
  | true => rw [Text.isWord_of_isBlank blank] at isWord; cases isWord

namespace ArrayForm

def category : ArrayForm → Category
  | swift => .swift
  | objectiveC => .objectiveC

/-- What stands in front of the first element. -/
def lead (name : String) : ArrayForm → String
  | swift => "let " ++ name ++ ": [String] = ["
  | objectiveC => "NSArray *" ++ name ++ " = @["

/-- What stands in front of the quotes of each element. -/
def mark : ArrayForm → String
  | swift => ""
  | objectiveC => "@"

def closing : ArrayForm → String
  | swift => "]"
  | objectiveC => "];"

def quoted (form : ArrayForm) (item : String) : String := form.mark ++ "\"" ++ item ++ "\""

def written (form : ArrayForm) (items : List String) : String :=
  ", ".intercalate (items.map form.quoted)

/-- A source that declares one array and nothing else. -/
def source (form : ArrayForm) (path name : String) (items : List String) : SourceFile :=
  ⟨path, form.category, form.lead name ++ form.written items ++ form.closing⟩

/-- What stands in front of further elements. -/
def gap : List String → List Char
  | [] => []
  | _ :: _ => [',', ' ']

variable {form : ArrayForm} {item : String} {items : List String}

theorem quoted_chars (form : ArrayForm) (item : String) :
    (form.quoted item).toList = form.mark.toList ++ ('"' :: (item.toList ++ ['"'])) := by
  simp [quoted]

theorem written_cons (form : ArrayForm) (item : String) (items : List String) :
    (form.written (item :: items)).toList =
      (form.quoted item).toList ++ (gap items ++ (form.written items).toList) := by
  cases items with
  | nil => simp [written, gap]
  | cons next items => simp [written, gap, String.intercalate_cons_cons]

theorem mark_plain (form : ArrayForm) : ']' ∉ form.mark.toList ∧ '"' ∉ form.mark.toList := by
  cases form with
  | swift => decide
  | objectiveC => decide

end ArrayForm

namespace BindingRule

open Pattern

variable {form : ArrayForm} {item : String} {items : List String}

theorem element_needs : element.Needs fun rest =>
    "@".toList <+: rest ∨ "\"".toList <+: rest := by
  intro progress reached member
  obtain ⟨middle, start, further⟩ := mem_ends_seq.mp member
  rcases mem_ends_optional.mp start with marked | rfl
  · exact Or.inl (text_needs "@" _ _ marked)
  · exact Or.inr ((text_needs "\"").seq _ _ further)

theorem element_reads (form : ArrayForm) (isElement : IsElement item) (rest : List Char) :
    element.Reads (form.quoted item).toList rest [item.toList] := by
  obtain ⟨unquoted, unescaped, oneLine⟩ := isElement
  have plain : ∀ c ∈ item.toList, (c ≠ '"' && c ≠ '\\' && c ≠ '\n') = true := by
    intro c member
    simp only [ne_eq, decide_not, Bool.and_eq_true, Bool.not_eq_true', decide_eq_false_iff_not]
    refine ⟨⟨?_, ?_⟩, ?_⟩ <;> rintro rfl
    · exact unquoted member
    · exact unescaped member
    · exact oneLine member
  have inside : (many (.either (.char fun c => c ≠ '"' && c ≠ '\\' && c ≠ '\n')
      (.seq "\\" (.char (· ≠ '\n'))))).Reads item.toList ("\"".toList ++ rest) [] :=
    many_reads (fun c member rest => either_reads (char_reads (plain c member) rest))
      fun _ _ => rfl
  have reads := (text_reads "\"" _).seq ((capture_reads inside).seq (text_reads "\"" rest))
  rw [ArrayForm.quoted_chars]
  cases form with
  | swift =>
      refine seq_optional_reads_of_rejects reads ((text_needs "@").rejects ?_)
      rintro ⟨_, same⟩
      cases same
  | objectiveC => exact (optional_reads (text_reads "@" _)).seq reads

/-- An element takes two double quotes. -/
theorem element_quotes {before rest : List Char} (few : rest.count '"' < 2) :
    element.matchAt? ⟨before, rest⟩ = none := by
  refine matchAt?_eq_none fun reached member => ?_
  obtain ⟨marked, start, opened⟩ := mem_ends_seq.mp member
  obtain ⟨unquoted, quote, further⟩ := mem_ends_seq.mp opened
  obtain ⟨inner, inside, closed⟩ := mem_ends_seq.mp further
  have first := congrArg (List.count '"') (mem_ends_text.mp quote).1
  have second := congrArg (List.count '"') (mem_ends_text.mp closed).1
  have inMarked : marked.cursor.rest.count '"' ≤ rest.count '"' :=
    (suffix_of_mem_ends start).sublist.count_le '"'
  have inUnquoted := (suffix_of_mem_ends inside).sublist.count_le '"'
  have one : "\"".toList.count '"' = 1 := by decide
  rw [List.count_append] at first second
  omega

theorem findAllFrom_few_quotes {rest : List Char} (few : rest.count '"' < 2)
    (before : List Char) : element.findAllFrom 0 before rest = [] := by
  induction rest generalizing before with
  | nil => rfl
  | cons c rest ih =>
      have fewer := (List.sublist_cons_self c rest).count_le '"'
      rw [findAllFrom, element_quotes few]
      exact ih (by omega) _

theorem gap_unmatched (items : List String) :
    ∀ c ∈ ArrayForm.gap items, ∀ before rest, element.matchAt? ⟨before, c :: rest⟩ = none := by
  intro c member before rest
  have other : c ≠ '@' ∧ c ≠ '"' := by
    cases items with
    | nil => cases member
    | cons item items =>
        simp only [ArrayForm.gap, List.mem_cons, List.not_mem_nil, or_false] at member
        rcases member with rfl | rfl
        · decide
        · decide
  refine (element_needs.rejects ?_).matchAt? before
  rintro (⟨_, same⟩ | ⟨_, same⟩)
  · exact other.1 (List.cons.inj same).1.symm
  · exact other.2 (List.cons.inj same).1.symm

/-- The first quote of an element is the last one in front of a bracket in it. -/
theorem few_quotes_beforeFirst (isElement : IsElement item) (bracket : ']' ∈ item.toList)
    (rest : List Char) :
    (Text.beforeFirst ']' ((form.quoted item).toList ++ rest)).count '"' < 2 := by
  have opened : ']' ∉ form.mark.toList ++ ['"'] := by simp [form.mark_plain.1]
  have split : (form.quoted item).toList ++ rest =
      (form.mark.toList ++ ['"']) ++ (item.toList ++ ('"' :: rest)) := by
    simp [ArrayForm.quoted_chars]
  have none : (Text.beforeFirst ']' item.toList).count '"' ≤ item.toList.count '"' :=
    (List.takeWhile_sublist _).count_le '"'
  rw [List.count_eq_zero.mpr isElement.1] at none
  rw [split, Text.beforeFirst_append opened, Text.beforeFirst_append_of_mem bracket,
    List.count_append, List.count_append, List.count_eq_zero.mpr form.mark_plain.2,
    List.count_singleton_self]
  omega

/-- The elements found are those in front of the first one that holds a bracket. -/
theorem captured_written (form : ArrayForm) (each : ∀ item ∈ items, IsElement item)
    (before : List Char) :
    (element.findAllFrom 0 before (Text.beforeFirst ']' (form.written items).toList)).map
      (·.captured 0) = (items.takeWhile (']' ∉ ·.toList)).map String.toList := by
  induction items generalizing before with
  | nil => rfl
  | cons item items ih =>
      obtain ⟨here, later⟩ := List.forall_mem_cons.mp each
      rw [ArrayForm.written_cons]
      by_cases bracket : ']' ∈ item.toList
      · rw [List.takeWhile_cons_of_neg (by simpa using bracket),
          findAllFrom_few_quotes (few_quotes_beforeFirst here bracket _)]
        rfl
      · have plain : ']' ∉ (form.quoted item).toList := by
          simp [ArrayForm.quoted_chars, bracket, form.mark_plain.1]
        have plainGap : ']' ∉ ArrayForm.gap items := by cases items <;> simp [ArrayForm.gap]
        have nonempty : (form.quoted item).toList ≠ [] := by simp [ArrayForm.quoted_chars]
        obtain ⟨found, -, captured, search⟩ := (element_reads form here
          (ArrayForm.gap items ++ Text.beforeFirst ']' (form.written items).toList)).findAllFrom
            nonempty before
        rw [Text.beforeFirst_append plain, Text.beforeFirst_append plainGap, search,
          findAllFrom_unmatched (gap_unmatched items), List.map_cons, ih later,
          captured_of_map captured, List.takeWhile_cons_of_pos (by simpa using bracket)]
        rfl

/-- An array has the values of these elements, save for empty ones. -/
theorem values_written (each : ∀ item ∈ items, IsElement item) :
    values .array (Text.beforeFirst ']' (form.written items).toList) =
      (items.takeWhile (']' ∉ ·.toList)).filter (· ≠ "") := by
  have captured := captured_written form each []
  rw [← findAll] at captured
  simp only [values]
  rw [captured, List.filter_map, List.map_map]
  have same : String.ofList ∘ String.toList = id := funext fun item => String.ofList_toList
  rw [same, List.map_id]
  refine List.filter_congr fun item _ => ?_
  rw [Bool.eq_iff_iff]
  simp

end BindingRule

end AssetAudit
