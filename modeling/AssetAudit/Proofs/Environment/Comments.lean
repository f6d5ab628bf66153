import AssetAudit.Proofs.Environment.Writing
import AssetAudit.Proofs.Text.Pieces

namespace AssetAudit

/-! Comments behind the values of settings.  One behind a bare value is left out.  Behind quotes it
makes the quotes part of the value, and where there is no value it becomes the value. -/

theorem decodeText_encode {text : List Char} (noReturn : '\r' ∉ text) :
    decodeText (Text.Utf8.encode text) = .ok text := by
  rw [decodeText, Text.Utf8.decode_encode]
  exact congrArg Except.ok (Text.normalizeNewlines_eq_self noReturn)

namespace SettingsFile

/-- A value that needs no quotes, with no white space at its ends. -/
structure IsBare (value : List Char) : Prop where
  unbroken : ∀ c ∈ value, Text.isLineBoundary c = false
  plain : ∀ c ∈ value, c ≠ '"' ∧ c ≠ '\'' ∧ c ≠ '#'
  first : ∀ c ∈ value.head?, Text.isBlank c = false
  last : ∀ c ∈ value.getLast?, Text.isBlank c = false

/-- A value as it is written, between two quotes or without any. -/
def writtenValue : Option Char → List Char → List Char
  | none, value => value
  | some quote, value => quote :: (value ++ [quote])

/-- What may stand behind a value. -/
def writtenComment : Option (List Char) → List Char
  | none => []
  | some comment => ' ' :: '#' :: ' ' :: comment

section Bare

variable {value : List Char}

theorem isQuoted_eq_false (begins : ∀ c ∈ value.head?, c ≠ '"' ∧ c ≠ '\'') :
    isQuoted value = false := by
  cases value with
  | nil => rfl
  | cons c rest =>
      obtain ⟨noDouble, noSingle⟩ := begins c rfl
      simp [isQuoted, noDouble, noSingle]

theorem IsBare.noSign (bare : IsBare value) : '#' ∉ value :=
  fun member => (bare.plain '#' member).2.2 rfl

theorem IsBare.begins (bare : IsBare value) : ∀ c ∈ value.head?, c ≠ '"' ∧ c ≠ '\'' := by
  intro c first
  obtain ⟨noDouble, noSingle, -⟩ := bare.plain c (List.mem_of_mem_head? first)
  exact ⟨noDouble, noSingle⟩

theorem IsBare.strip (bare : IsBare value) : Text.strip value = value := by
  cases value with
  | nil => rfl
  | cons c rest =>
      rw [Text.strip, List.dropWhile_cons_of_neg (by simp [bare.first c rfl])]
      exact Text.dropEndWhile_eq_self bare.last

theorem IsBare.unquote (bare : IsBare value) : SettingsFile.unquote value = value := by
  have noPiece : ¬ [' ', '#'] <:+: value := fun found =>
    bare.noSign (found.subset (by simp))
  rw [SettingsFile.unquote, if_neg (by simp [isQuoted_eq_false bare.begins]),
    Text.beforePiece_plain noPiece, Text.dropEndWhile_eq_self bare.last]

end Bare

section Commented

variable {value : List Char} {quote : Char}

/-- Only the space at the end of a comment goes. -/
theorem strip_commented {c : Char} (visible : Text.isBlank c = false) (front comment : List Char) :
    Text.strip (c :: (front ++ ' ' :: '#' :: comment)) =
      c :: (front ++ ' ' :: '#' :: Text.dropEndWhile Text.isBlank comment) := by
  have signVisible : Text.isBlank '#' = false := by decide
  have whole := Text.strip_append_cons (List.forall_mem_nil _) visible
    ((front ++ [' ']) ++ '#' :: comment)
  rw [Text.dropEndWhile_append_cons signVisible] at whole
  simpa using whole

theorem IsBare.unquote_commented (bare : IsBare value) (comment : List Char) :
    SettingsFile.unquote (value ++ ' ' :: '#' :: comment) = value := by
  have begins : ∀ c ∈ (value ++ ' ' :: '#' :: comment).head?, c ≠ '"' ∧ c ≠ '\'' := by
    cases value with
    | nil => simp
    | cons c rest => exact bare.begins
  rw [SettingsFile.unquote, if_neg (by simp [isQuoted_eq_false begins]),
    Text.beforePiece_pair bare.noSign (by decide), Text.dropEndWhile_eq_self bare.last]

/-- Behind the quotes of a value a comment is kept, or else the quotes are. -/
theorem length_unquote_commented (noSign : '#' ∉ value) (quoted : quote = '"' ∨ quote = '\'')
    (comment : List Char) :
    value.length <
      (SettingsFile.unquote (quote :: (value ++ quote :: ' ' :: '#' :: comment))).length := by
  rw [unquote]
  split
  · -- The comment ends in the quote as well, and all that stands between the two is kept.
    simp
  · have visible : Text.isBlank quote = false ∧ '#' ≠ quote := by
      rcases quoted with rfl | rfl <;> decide
    have absent : '#' ∉ quote :: (value ++ [quote]) := by
      simp [noSign, visible.2]
    have cut := Text.beforePiece_pair absent (by decide : ' ' ≠ '#') comment
    have kept : Text.dropEndWhile Text.isBlank (quote :: (value ++ [quote])) =
        quote :: (value ++ [quote]) :=
      Text.dropEndWhile_append_cons visible.1 (quote :: value) []
    simp only [List.cons_append, List.append_assoc, List.nil_append] at cut
    rw [cut, kept]
    simp only [List.length_cons, List.length_append, List.length_nil]
    omega

/-- Where there is no value the sign of the comment begins one. -/
theorem unquote_sign (comment : List Char) : unquote ('#' :: comment) ≠ [] := by
  have noPiece : ¬ [' ', '#'].isPrefixOf ('#' :: comment) = true := by simp
  have visible : Text.isBlank '#' = false := by decide
  have bare : isQuoted ('#' :: comment) = false := isQuoted_eq_false (by simp)
  have kept := Text.dropEndWhile_append_cons visible [] (Text.beforePiece [' ', '#'] comment)
  rw [unquote, if_neg (by simp [bare]), Text.beforePiece, if_neg noPiece]
  rw [List.nil_append] at kept
  rw [kept]
  exact List.cons_ne_nil _ _

theorem IsBare.unquote_alone (bare : IsBare value) {quote? : Option Char}
    (quoted : ∀ quote ∈ quote?, quote = '"' ∨ quote = '\'') :
    SettingsFile.unquote (Text.strip (writtenValue quote? value)) = value := by
  cases quote? with
  | none => rw [writtenValue, bare.strip, bare.unquote]
  | some quote =>
      have tight : IsSpacing [] := List.forall_mem_nil _
      have stripped := strip_quoted tight tight (quoted quote rfl) value
      rw [List.nil_append] at stripped
      rw [writtenValue, stripped, unquote_quoted (quoted quote rfl)]

/-- What is read is the value as long as no comment stands behind it, or it is a bare value of at
least one character. -/
theorem IsBare.unquote_written (bare : IsBare value) {quote? : Option Char}
    (quoted : ∀ quote ∈ quote?, quote = '"' ∨ quote = '\'') (comment? : Option (List Char)) :
    SettingsFile.unquote (Text.strip (writtenValue quote? value ++ writtenComment comment?)) =
        value ↔
      comment? = none ∨ quote? = none ∧ value ≠ [] := by
  cases comment? with
  | none =>
      rw [writtenComment, List.append_nil]
      exact iff_of_true (bare.unquote_alone quoted) (Or.inl rfl)
  | some comment =>
      cases quote? with
      | none =>
          cases value with
          | nil =>
              -- The space in front of the sign is trimmed away, so the sign opens no comment.
              have blank : ∀ c ∈ [' '], Text.isBlank c = true :=
                List.forall_mem_singleton.mpr (by decide)
              have stripped := Text.strip_append_cons blank (by decide : Text.isBlank '#' = false)
                (' ' :: comment)
              refine iff_of_false ?_ (by simp)
              exact fun read => unquote_sign _ (stripped ▸ read)
          | cons c rest =>
              have stripped := strip_commented (bare.first c rfl) rest (' ' :: comment)
              refine iff_of_true ?_ (Or.inr ⟨rfl, List.cons_ne_nil c rest⟩)
              exact (congrArg SettingsFile.unquote stripped).trans (bare.unquote_commented _)
      | some quote =>
          have visible : Text.isBlank quote = false := by
            rcases quoted quote rfl with rfl | rfl <;> decide
          have stripped := strip_commented visible (value ++ [quote]) (' ' :: comment)
          have longer := length_unquote_commented bare.noSign (quoted quote rfl)
            (Text.dropEndWhile Text.isBlank (' ' :: comment))
          refine iff_of_false (fun read => ?_) (by simp)
          simp only [List.append_assoc, List.singleton_append] at stripped
          simp only [writtenValue, writtenComment, List.cons_append, List.append_assoc,
            List.nil_append, stripped] at read
          rw [read] at longer
          exact Nat.lt_irrefl _ longer

end Commented

/-- A line of a file counts unless a later line sets the same name. -/
theorem get?_settings_line {before after : List (List Char)} {line name value : List Char}
    (unbroken : ∀ other ∈ before ++ line :: after, ∀ c ∈ other, Text.isLineBoundary c = false)
    (reads : SettingLine.ofText line = .setting name value)
    (last : ∀ other ∈ after, ∀ later, SettingLine.ofText other ≠ .setting name later) :
    KeyedList.get? (settings (['\n'].intercalate (before ++ line :: after)))
      (String.ofList name) = some (String.ofList value) := by
  have unset : KeyedList.get?
      ((after.map SettingLine.ofText).filterMap SettingLine.entry?).reverse
        (String.ofList name) = none := by
    refine KeyedList.get?_eq_none.mpr fun member => ?_
    obtain ⟨⟨known, later⟩, listed, same⟩ := List.mem_map.mp member
    obtain ⟨read, among, entry⟩ := List.mem_filterMap.mp (List.mem_reverse.mp listed)
    obtain ⟨other, isLater, rfl⟩ := List.mem_map.mp among
    cases here : SettingLine.ofText other with
    | blank => simp [here, SettingLine.entry?] at entry
    | malformed => simp [here, SettingLine.entry?] at entry
    | setting set later =>
        simp only [here, SettingLine.entry?, Option.some.injEq, Prod.mk.injEq] at entry
        obtain rfl := String.ofList_injective (entry.1.trans same)
        exact last other isLater later here
  rw [(settings_joined unbroken).last, List.map_append, List.map_cons, List.filterMap_append,
    List.filterMap_cons_some (by rw [reads]; rfl), List.reverse_append, List.reverse_cons,
    List.append_assoc, KeyedList.get?_append, unset, Option.none_or]
  simp [KeyedList.get?]

section File

variable {name value : List Char} {quote? : Option Char} {comment? : Option (List Char)}

/-- A setting on a line of its own, with what may stand behind it. -/
def commentedLine (name value : List Char) (quote? : Option Char) (comment? : Option (List Char)) :
    List Char :=
  name ++ '=' :: (writtenValue quote? value ++ writtenComment comment?)

theorem commentedLine_unbroken (named : IsName name) (bare : IsBare value)
    (quoted : ∀ quote ∈ quote?, quote = '"' ∨ quote = '\'')
    (unbroken : ∀ comment ∈ comment?, ∀ c ∈ comment, Text.isLineBoundary c = false) :
    ∀ c ∈ commentedLine name value quote? comment?, Text.isLineBoundary c = false := by
  have inName : ∀ c ∈ name, Text.isLineBoundary c = false := fun c member =>
    Text.not_isLineBoundary_of_isNamePart (named.parts c member)
  have inValue : ∀ c ∈ writtenValue quote? value, Text.isLineBoundary c = false := by
    cases quote? with
    | none => exact bare.unbroken
    | some quote =>
        have ends : Text.isLineBoundary quote = false := by
          rcases quoted quote rfl with rfl | rfl <;> decide
        simp only [writtenValue, List.forall_mem_cons, List.forall_mem_append]
        exact ⟨ends, bare.unbroken, ends, List.forall_mem_nil _⟩
  have inComment : ∀ c ∈ writtenComment comment?, Text.isLineBoundary c = false := by
    cases comment? with
    | none => exact List.forall_mem_nil _
    | some comment =>
        simp only [writtenComment, List.forall_mem_cons]
        exact ⟨by decide, by decide, by decide, unbroken comment rfl⟩
  simp only [commentedLine, List.forall_mem_cons, List.forall_mem_append]
  exact ⟨inName, by decide, inValue, inComment⟩

theorem ofText_commentedLine (named : IsName name) (value : List Char) (quote? : Option Char)
    (comment? : Option (List Char)) :
    SettingLine.ofText (commentedLine name value quote? comment?) =
      .setting name
        (unquote (Text.strip (writtenValue quote? value ++ writtenComment comment?))) := by
  have tight : IsSpacing [] := List.forall_mem_nil _
  exact ofText_assignment tight .absent named tight _

/-- The value on a line is read as it was written just if no comment stands behind it, or it is
bare and not empty. -/
theorem commented_value_read_iff {workspace : Workspace} {path : String}
    {before after : List (List Char)} (named : IsName name) (bare : IsBare value)
    (quoted : ∀ quote ∈ quote?, quote = '"' ∨ quote = '\'')
    (unbroken : ∀ comment ∈ comment?, ∀ c ∈ comment, Text.isLineBoundary c = false)
    (others : ∀ line ∈ before ++ after, ∀ c ∈ line, Text.isLineBoundary c = false)
    (last : ∀ line ∈ after, ∀ later, SettingLine.ofText line ≠ .setting name later)
    (holds : workspace.files.content workspace.directory path =
      .ok (Text.Utf8.encode
        (['\n'].intercalate (before ++ commentedLine name value quote? comment? :: after)))) :
    ∃ reading parsed, read workspace path = .ok reading ∧
      KeyedList.get? reading.settings (String.ofList name) = some (String.ofList parsed) ∧
      (parsed = value ↔ comment? = none ∨ quote? = none ∧ value ≠ []) := by
  have lines : ∀ line ∈ before ++ commentedLine name value quote? comment? :: after,
      ∀ c ∈ line, Text.isLineBoundary c = false := by
    rw [List.forall_mem_append, List.forall_mem_cons]
    obtain ⟨earlier, later⟩ := List.forall_mem_append.mp others
    exact ⟨earlier, commentedLine_unbroken named bare quoted unbroken, later⟩
  have text := (readText_of_content holds).trans (decodeText_encode (noReturn_joined lines))
  have reads := ofText_commentedLine named value quote? comment?
  exact ⟨_, _, read_of_text text, get?_settings_line lines reads last,
    bare.unquote_written quoted comment?⟩

end File

/-- A project with a comment behind the quotes of a value. -/
def commentedShop : Workspace :=
  ⟨⟨[(["shop"], .directory), (["shop", ".env"], .file "A=\"x\" # y".toUTF8.data.toList)]⟩, ["shop"]⟩

/-- The quotes have become part of the value. -/
theorem commentedShop_keeps_quotes :
    (∃ reading parsed, read commentedShop ".env" = .ok reading ∧
      KeyedList.get? reading.settings "A" = some (String.ofList parsed) ∧
      (parsed = ['x'] ↔ some ['y'] = none ∨ some '"' = none ∧ ['x'] ≠ [])) ∧
    (read commentedShop ".env").toOption.map SettingsReading.settings = some [("A", "\"x\"")] := by
  have named : IsName ['A'] := ⟨'A', [], rfl, rfl, List.forall_mem_nil _⟩
  have visible : Text.isBlank 'x' = false := by decide
  have bare : IsBare ['x'] :=
    ⟨List.forall_mem_singleton.mpr (by decide), List.forall_mem_singleton.mpr (by decide),
      by simpa using visible, by simpa using visible⟩
  have quoted : ∀ quote ∈ some '"', quote = '"' ∨ quote = '\'' := by simp
  have unbroken : ∀ comment ∈ some ['y'], ∀ c ∈ comment, Text.isLineBoundary c = false := by
    simpa using (by decide : Text.isLineBoundary 'y' = false)
  have holds : commentedShop.files.content commentedShop.directory ".env" =
      .ok (Text.Utf8.encode
        (['\n'].intercalate ([] ++ [commentedLine ['A'] ['x'] (some '"') (some ['y'])]))) :=
    toOption_eq_some.mp (by decide +kernel)
  exact ⟨commented_value_read_iff named bare quoted unbroken (List.forall_mem_nil _)
    (List.forall_mem_nil _) holds, by decide +kernel⟩

end SettingsFile

end AssetAudit
