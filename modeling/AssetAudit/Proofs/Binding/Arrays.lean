import AssetAudit.Proofs.Binding.Collection
import AssetAudit.Proofs.Binding.Elements
import AssetAudit.Proofs.Binding.Quotation
import Mathlib.Data.List.TakeWhile

namespace AssetAudit

/-! The values of a declared array.  Its rule reads the declaration up to the first closing square
bracket, so it gives the elements in front of that bracket, and no other rule gives the rest. -/

namespace ArrayForm

open Pattern BindingRule

variable {form : ArrayForm} {name : String} {rest : List Char}

/-- What the rule of an array takes in front of the brackets. -/
def header : ArrayForm → List Pattern
  | swift => [declared, .optional (.sequence [":", .blanks, "[String]", .blanks]), "=", .blanks]
  | objectiveC =>
      ["NSArray", .blanks, .optional (.sequence ["<", .run (· ≠ '>'), ">", .blanks]), pointer, "@"]

theorem header_checked (form : ArrayForm) :
    form.header ≠ [] ∧ (sequence form.header).captureCount? = some 1 := by
  cases form with
  | swift => decide
  | objectiveC => decide

theorem blank_reads (stops : ∀ c ∈ rest.head?, Text.isBlank c = false) :
    blanks.Reads [' '] rest [] :=
  run_reads (List.all_eq_true.mp rfl) stops

theorem some_blank_reads (stops : ∀ c ∈ rest.head?, Text.isBlank c = false) :
    someBlanks.Reads [' '] rest [] :=
  someOf_reads (by simp) (List.all_eq_true.mp rfl) stops

theorem no_blank_reads (stops : ∀ c ∈ rest.head?, Text.isBlank c = false) :
    blanks.Reads [] rest [] :=
  run_reads (by simp) stops

theorem word_reads (isName : IsName name) (stops : ∀ c ∈ rest.head?, Text.isWord c = false) :
    (capture word).Reads name.toList rest [name.toList] :=
  capture_reads (someOf_reads (by simpa using isName.1) isName.2 stops)

theorem word_needs : (capture word).Needs fun rest => ∃ c ∈ rest.head?, Text.isWord c = true := by
  intro progress reached member
  obtain ⟨inner, inside, rfl⟩ := List.mem_map.mp member
  obtain ⟨middle, one, more⟩ := mem_ends_seq.mp inside
  obtain ⟨c, accepted, passed, _⟩ := passes_of_mem_char one
  exact ⟨c, by simp [passed.1], accepted⟩

/-- Where the name itself is read as the keyword, no name is left behind it. -/
theorem const_lost (isName : IsName name) {progress middle : Progress} {tail : List Char}
    (start : progress.cursor.rest = name.toList ++ ' ' :: '=' :: tail)
    (member : middle ∈ (seq "const" someBlanks).ends progress) :
    middle.cursor.rest = '=' :: tail := by
  obtain ⟨keyword, const, blank⟩ := mem_ends_seq.mp member
  obtain ⟨spaced, one, more⟩ := mem_ends_seq.mp blank
  obtain ⟨c, isBlank, first, _⟩ := passes_of_mem_char one
  obtain ⟨taken, blanks, further, _⟩ := passes_of_mem_run more
  have same := congrArg (List.dropWhile Text.isWord) ((mem_ends_text.mp const).1)
  have constWord : ∀ c ∈ "const".toList, Text.isWord c = true := List.all_eq_true.mp rfl
  rw [start, first.1, List.dropWhile_append_of_pos isName.2,
    List.dropWhile_append_of_pos constWord, List.dropWhile_cons_of_neg (by decide),
    List.singleton_append, List.dropWhile_cons_of_neg (by simp [Text.isWord_of_isBlank isBlank])]
    at same
  have behind := (List.cons.inj same).2
  rw [further.1] at behind
  cases taken with
  | nil => exact behind.symm
  | cons d taken =>
      have sign := blanks d (by simp)
      rw [← (List.cons.inj behind).1] at sign
      cases sign

/-- A run of a class stops in front of this character. -/
theorem stops_at (rest : List Char) {accepts : Char → Bool} {c : Char}
    (first : rest.head? = some c) (rejected : accepts c = false) :
    ∀ d ∈ rest.head?, accepts d = false := by
  rw [first]
  rintro d ⟨⟩
  exact rejected

theorem declared_reads (isName : IsName name) (sign : rest.head? = some ':') :
    declared.Reads ("let".toList ++ ([' '] ++ (name.toList ++ []))) rest [name.toList] := by
  have named := (word_reads isName (stops_at ([] ++ rest) sign rfl)).seq
    (no_blank_reads (stops_at rest sign rfl))
  refine (either_reads (text_reads "let" _)).seq ((some_blank_reads ?_).seq named)
  rw [List.append_assoc]
  exact isName.visible _

theorem pointer_reads (isName : IsName name) (sign : rest.head? = some '@') :
    pointer.Reads ("*".toList ++ ([] ++ (name.toList ++ ([' '] ++ ("=".toList ++ [' '])))))
      rest [name.toList] := by
  have equals := (text_reads "=" _).seq (blank_reads (stops_at rest sign rfl))
  have named := (word_reads isName (stops_at _ rfl rfl)).seq
    ((blank_reads (stops_at _ rfl rfl)).seq equals)
  refine (text_reads "*" _).seq ((no_blank_reads ?_).seq (seq_optional_reads named ?_))
  · rw [List.append_assoc]
    exact isName.visible _
  · intro progress start middle member
    rw [List.append_assoc] at start
    rw [const_lost isName start member]
    refine word_needs.seq.rejects ?_
    rintro ⟨c, ⟨⟩, isWord⟩
    cases isWord

theorem header_reads (form : ArrayForm) (isName : IsName name) (rest : List Char) :
    ∃ text, (form.lead name).toList = text ++ ['['] ∧
      (sequence form.header).Reads text ('[' :: rest) [name.toList] := by
  cases form with
  | swift =>
      have equals := (text_reads "=" _).seq (blank_reads (stops_at ('[' :: rest) rfl rfl))
      have typed := (text_reads ":" _).seq ((blank_reads (stops_at _ rfl rfl)).seq
        ((text_reads "[String]" _).seq
          (blank_reads (stops_at ("=".toList ++ [' '] ++ '[' :: rest) rfl rfl))))
      have reads := (declared_reads isName rfl).seq ((optional_reads typed).seq equals)
      exact ⟨_, by simp [lead], reads⟩
  | objectiveC =>
      have pointed := (pointer_reads isName rfl).seq (text_reads "@" ('[' :: rest))
      have needs : (sequence ["<", .run (· ≠ '>'), ">", .blanks]).Needs ("<".toList <+: ·) :=
        (text_needs "<").seq
      have untyped := seq_optional_reads_of_rejects pointed
        (needs.rejects (by rintro ⟨_, same⟩; cases same))
      have reads := (text_reads "NSArray" _).seq ((blank_reads (stops_at _ rfl rfl)).seq untyped)
      exact ⟨_, by simp [lead], reads⟩

theorem arrayInside_reads {inside : List Char} (plain : ']' ∉ inside) (rest : List Char) :
    arrayInside.Reads ("[".toList ++ (inside ++ "]".toList)) rest [inside] := by
  have accepted : ∀ c ∈ inside, decide (c ≠ ']') = true := fun c member =>
    decide_eq_true fun same => plain (same ▸ member)
  have run := run_reads accepted (stops_at ("]".toList ++ rest) rfl rfl)
  exact (text_reads "[" _).seq ((capture_reads run).seq (text_reads "]" rest))

theorem array_reads (form : ArrayForm) (isName : IsName name) {inside : List Char}
    (plain : ']' ∉ inside) (rest : List Char) :
    (sequence (form.header ++ [arrayInside])).Reads ((form.lead name).toList ++ (inside ++ [']']))
      rest [name.toList, inside] := by
  obtain ⟨text, same, reads⟩ := header_reads form isName (inside ++ ("]".toList ++ rest))
  have whole := Reads.concat form.header_checked.1 (by simpa using reads)
    (arrayInside_reads plain rest)
  rw [same, List.append_assoc]
  exact whole

variable {path : String} {items : List String}

/-- The declaration is found at its beginning. -/
theorem array_found (form : ArrayForm) (isName : IsName name) (path : String)
    (items : List String) :
    ∃ found more, (sequence (form.header ++ [arrayInside])).findAll
        (form.source path name items).text.toList = found :: more ∧ found.offset = 0 ∧
      found.captures.map Capture.chars =
        [name.toList, Text.beforeFirst ']' (form.written items).toList] := by
  obtain ⟨rest, closing⟩ : ∃ rest, form.closing.toList = ']' :: rest := by
    cases form with
    | swift => exact ⟨[], rfl⟩
    | objectiveC => exact ⟨[';'], rfl⟩
  obtain ⟨tail, cut⟩ := Text.beforeFirst_cut ']' (form.written items).toList rest
  have reads := array_reads form isName (Text.not_mem_beforeFirst (form.written items).toList) tail
  obtain ⟨found, offset, captures, search⟩ := reads.findAllFrom (by simp) []
  have whole : (form.source path name items).text.toList = (form.lead name).toList ++
      (Text.beforeFirst ']' (form.written items).toList ++ [']']) ++ tail := by
    rw [source_chars, remaining, closing, cut]
    simp
  exact ⟨found, _, by rw [findAll, whole, search], offset, captures⟩

theorem ofCategory_eq (form : ArrayForm) :
    ∃ title, BindingRule.ofCategory form.category =
      ⟨title, sequence (form.header ++ [arrayInside]), .array⟩ :: form.constants := by
  cases form with
  | swift => exact ⟨_, rfl⟩
  | objectiveC => exact ⟨_, rfl⟩

/-- The elements that are not empty and stand in front of the first one with a bracket. -/
def bracketless (items : List String) : List String :=
  (items.takeWhile (']' ∉ ·.toList)).filter (· ≠ "")

/-- The elements of the array are the first values that are found. -/
theorem bracketless_first (form : ArrayForm) (path : String) (isName : IsName name)
    (each : ∀ item ∈ items, IsElement item) :
    ((bracketless items).map fun item => ⟨0, name, item⟩) <+:
      BoundValue.ofSource (form.source path name items) := by
  obtain ⟨title, rules⟩ := form.ofCategory_eq
  obtain ⟨found, more, search, offset, captures⟩ := array_found form isName path items
  have texts : BindingRule.values .array (found.captured 1) = bracketless items := by
    rw [captured_of_map captures]
    exact values_written each
  have named : found.capturedText 0 = name := by
    rw [Match.capturedText, captured_of_map captures]
    exact String.ofList_toList
  have first : ((bracketless items).map fun item => ⟨0, name, item⟩) <+:
      (BindingRule.ofCategory form.category).flatMap
        (BoundValue.ofRule (form.source path name items).text.toList) := by
    rw [rules, List.flatMap_cons, BoundValue.ofRule]
    simp only [search, List.flatMap_cons, texts, named, offset, List.append_assoc]
    exact List.prefix_append _ _
  have atStart := first.filter (·.offset = 0)
  rw [List.filter_eq_self.mpr (by simp), ← filter_sortedBy BoundValue.offset] at atStart
  exact atStart.trans (filter_prefix_of_ascending (sortedBy_ascending BoundValue.offset _)
    fun _ _ => Nat.zero_le _)

/-- A value is made of what was captured. -/
theorem values_subset {shape : BindingShape} {raw : List Char} {value : String}
    (member : value ∈ BindingRule.values shape raw) : value.toList ⊆ raw := by
  obtain ⟨chars, kept, rfl⟩ := List.mem_map.mp member
  rw [String.toList_ofList]
  have among := (List.mem_filter.mp kept).1
  cases shape with
  | text =>
      rw [List.mem_singleton.mp among]
      exact List.Subset.refl _
  | array =>
      obtain ⟨found, within, rfl⟩ := List.mem_map.mp among
      exact captured_subset within 0

/-- No value of such a source holds a closing bracket. -/
theorem unbracketed_values (isName : IsName name) (plain : ∀ item ∈ items, '"' ∉ item.toList)
    {bound : BoundValue} (member : bound ∈ BoundValue.ofSource (form.source path name items)) :
    ']' ∉ bound.value.toList := by
  rw [BoundValue.ofSource_eq, BoundValue.mem_ofRules] at member
  obtain ⟨rule, among, found, inText, -, -, value⟩ := member
  intro bracket
  have captured := values_subset value bracket
  obtain ⟨title, rules⟩ := form.ofCategory_eq
  have known : rule ∈ BindingRule.ofCategory form.category := among
  rw [rules] at known
  rcases List.mem_cons.mp known with rfl | constant
  · obtain ⟨nonempty, counted⟩ := form.header_checked
    obtain ⟨-, accepted, -⟩ := enclosed_of_mem_findAll nonempty counted inText
    simpa using accepted ']' captured
  · rw [(captured_constant isName plain constant inText).2] at captured
    exact form.between_plain.2 captured

end ArrayForm

/-- The values that the bindings of a source give a name. -/
def SourceFile.valuesOf (source : SourceFile) (name : String) : List String :=
  BindingTable.lookup ⟨Binding.ofSource source⟩ name

/-- The elements of an array in front of the first one with a closing bracket are bound first, in
the order of their first appearance.  No other element with a bracket is bound, so all of them are
just if none has one. -/
theorem array_elements_bound_iff (form : ArrayForm) (path name : String) (items : List String)
    (isName : IsName name) (each : ∀ item ∈ items, IsElement item) :
    (ArrayForm.bracketless items).eraseDups <+: (form.source path name items).valuesOf name ∧
      (∀ value ∈ (form.source path name items).valuesOf name, ']' ∉ value.toList) ∧
      ((items.filter (· ≠ "")).eraseDups.Sublist ((form.source path name items).valuesOf name) ↔
        ∀ item ∈ items, ']' ∉ item.toList) := by
  have values : (form.source path name items).valuesOf name =
      BoundValue.valuesOf (BoundValue.ofSource (form.source path name items)) name := by
    rw [SourceFile.valuesOf, Binding.ofSource_eq, BoundValue.lookup_merged]
  have first : (ArrayForm.bracketless items).eraseDups <+:
      (form.source path name items).valuesOf name := by
    have found := ArrayForm.bracketless_first form path isName each
    have named := BoundValue.valuesOf_prefix found name
    rwa [BoundValue.valuesOf_map, ← values] at named
  have unbracketed : ∀ value ∈ (form.source path name items).valuesOf name,
      ']' ∉ value.toList := by
    intro value member
    rw [values, BoundValue.valuesOf, List.mem_eraseDups] at member
    obtain ⟨bound, kept, rfl⟩ := List.mem_map.mp member
    exact ArrayForm.unbracketed_values isName (fun item among => (each item among).1)
      (List.mem_filter.mp kept).1
  refine ⟨first, unbracketed, fun bound item member bracket => ?_, fun none => ?_⟩
  · have filled : item ≠ "" := by
      rintro rfl
      cases bracket
    have kept : item ∈ (items.filter (· ≠ "")).eraseDups :=
      List.mem_eraseDups.mpr (List.mem_filter.mpr ⟨member, by simpa using filled⟩)
    exact unbracketed item (bound.subset kept) bracket
  · have all : items.takeWhile (']' ∉ ·.toList) = items := by
      rw [List.takeWhile_eq_self_iff]
      simpa using none
    rw [ArrayForm.bracketless, all] at first
    exact first.sublist

def tileSource : SourceFile := ArrayForm.swift.source "Icons.swift" "icons" ["tile[1]", "star"]

theorem tileSource_loses_bracket :
    tileSource.text = "let icons: [String] = [\"tile[1]\", \"star\"]" ∧ IsName "icons" ∧
      (∀ item ∈ ["tile[1]", "star"], IsElement item) ∧ "tile[1]" ∉ tileSource.valuesOf "icons" ∧
      ¬ ["tile[1]", "star"].Sublist (tileSource.valuesOf "icons") := by
  have isName : IsName "icons" := by decide
  have each : ∀ item ∈ ["tile[1]", "star"], IsElement item := by decide
  obtain ⟨_, unbracketed, kept⟩ :=
    array_elements_bound_iff .swift "Icons.swift" "icons" ["tile[1]", "star"] isName each
  refine ⟨by decide, isName, each, fun member => unbracketed _ member (by decide), fun all => ?_⟩
  exact kept.mp all "tile[1]" (by decide) (by decide)

end AssetAudit
