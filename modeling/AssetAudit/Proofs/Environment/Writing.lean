import AssetAudit.Proofs.Environment.Loading
import AssetAudit.Proofs.KeyedList
import AssetAudit.Proofs.Text.Encoding
import AssetAudit.Proofs.Text.Lines
import AssetAudit.Proofs.Text.Trimming
import AssetAudit.Proofs.Text.WhiteSpace
import Mathlib.Data.List.Forall2
import Mathlib.Data.List.ReduceOption

namespace AssetAudit

/-! Settings files as people write them.  Whatever stands between the quotes of a value, the file
reads back as the settings that were written. -/

namespace SettingsFile

/-- Spaces and tabs. -/
def IsSpacing (text : List Char) : Prop := ∀ c ∈ text, c = ' ' ∨ c = '\t'

/-- The word `export` with the space behind it, or nothing. -/
inductive IsOpening : List Char → Prop
  | absent : IsOpening []
  | exported {gap : List Char} (spacing : IsSpacing gap) (nonempty : gap ≠ []) :
      IsOpening ("export".toList ++ gap)

/-- A word of ASCII letters, digits and underscores that does not begin with a digit. -/
def IsName (text : List Char) : Prop :=
  ∃ first others, text = first :: others ∧ Text.isNameStart first = true ∧
    ∀ c ∈ others, Text.isNamePart c = true

/-- What may stand on a line, with the setting that is meant by it. -/
inductive IsWritten : List Char → Option (String × String) → Prop
  | blank {line : List Char} (blank : ∀ c ∈ line, Text.isBlank c = true) : IsWritten line none
  | comment {indent : List Char} (text : List Char)
      (blank : ∀ c ∈ indent, Text.isBlank c = true) : IsWritten (indent ++ '#' :: text) none
  | setting {indent opening name before after trailing : List Char} {quote : Char}
      (value : List Char) (indented : IsSpacing indent) (opened : IsOpening opening)
      (named : IsName name) (spacedBefore : IsSpacing before) (spacedAfter : IsSpacing after)
      (quoted : quote = '"' ∨ quote = '\'') (trailed : IsSpacing trailing) :
      IsWritten
        (indent ++ (opening ++ (name ++ (before ++
          '=' :: (after ++ quote :: (value ++ quote :: trailing))))))
        (some (String.ofList name, String.ofList value))

section Spacing

variable {text before : List Char}

theorem IsSpacing.blank (spacing : IsSpacing text) : ∀ c ∈ text, Text.isBlank c = true := by
  intro c member
  rcases spacing c member with rfl | rfl <;> decide

/-- Behind a name comes what is no part of it. -/
theorem IsSpacing.ends_name (spacing : IsSpacing before) (right : List Char) :
    ∃ d rest, before ++ '=' :: right = d :: rest ∧ ¬ Text.isNamePart d = true := by
  cases before with
  | nil => exact ⟨'=', right, rfl, by decide⟩
  | cons d rest =>
      have blank := spacing.blank d (by simp)
      exact ⟨d, rest ++ '=' :: right, rfl, by simp [Text.isNamePart_of_isBlank blank]⟩

theorem IsSpacing.dropWhile_isBlank (spacing : IsSpacing before) (right : List Char) :
    (before ++ '=' :: right).dropWhile Text.isBlank = '=' :: right := by
  rw [List.dropWhile_append_of_pos spacing.blank, List.dropWhile_cons_of_neg (by decide)]

end Spacing

section Name

variable {name : List Char}

theorem IsName.parts (named : IsName name) : ∀ c ∈ name, Text.isNamePart c = true := by
  obtain ⟨first, others, rfl, start, parts⟩ := named
  have firstPart : Text.isNamePart first = true := by rw [Text.isNamePart, start, Bool.true_or]
  exact List.forall_mem_cons.mpr ⟨firstPart, parts⟩

theorem sides?_named (named : IsName name) {before : List Char} (spacing : IsSpacing before)
    (right : List Char) : sides? (name ++ (before ++ '=' :: right)) = some (name, right) := by
  obtain ⟨first, others, rfl, start, parts⟩ := named
  obtain ⟨d, rest, ends, noPart⟩ := spacing.ends_name right
  have taken : (others ++ (before ++ '=' :: right)).takeWhile Text.isNamePart = others := by
    rw [List.takeWhile_append_of_pos parts, ends, List.takeWhile_cons_of_neg noPart,
      List.append_nil]
  have left : ((others ++ (before ++ '=' :: right)).dropWhile Text.isNamePart).dropWhile
      Text.isBlank = '=' :: right := by
    rw [List.dropWhile_append_of_pos parts, ends, List.dropWhile_cons_of_neg noPart, ← ends,
      spacing.dropWhile_isBlank]
  simp only [List.cons_append, sides?, if_pos start, left, taken]

theorem afterExport?_exported {gap : List Char} (spacing : IsSpacing gap) (nonempty : gap ≠ [])
    (named : IsName name) (rest : List Char) :
    afterExport? ("export".toList ++ gap ++ (name ++ rest)) = some (name ++ rest) := by
  have parts := named.parts
  obtain ⟨first, others, rfl, -, -⟩ := named
  have visible : ¬ Text.isBlank first = true := by
    simp [Text.not_isBlank_of_isNamePart (parts first (by simp))]
  have left : ("export".toList ++ gap ++ (first :: others ++ rest)).drop "export".toList.length =
      gap ++ (first :: others ++ rest) := by
    rw [List.append_assoc, List.drop_left]
  have begins : (gap ++ (first :: others ++ rest)).head?.any Text.isBlank = true := by
    cases gap with
    | nil => exact absurd rfl nonempty
    | cons c gap => exact spacing.blank c (by simp)
  have starts : "export".toList.isPrefixOf ("export".toList ++ gap ++ (first :: others ++ rest)) =
      true := by
    rw [List.isPrefixOf_iff_prefix, List.append_assoc]
    exact List.prefix_append _ _
  simp only [afterExport?, left, starts, begins, Bool.and_self, if_true]
  rw [List.dropWhile_append_of_pos spacing.blank, List.cons_append,
    List.dropWhile_cons_of_neg visible]

/-- A word of name characters that begins a line begins the name on it. -/
theorem prefix_name {word : List Char} (letters : ∀ c ∈ word, Text.isNamePart c = true)
    {before right : List Char} (spacing : IsSpacing before)
    (starts : word <+: name ++ (before ++ '=' :: right)) : word <+: name := by
  obtain ⟨d, rest, ends, noPart⟩ := spacing.ends_name right
  rcases List.prefix_or_prefix_of_prefix starts (List.prefix_append name _) with inside | longer
  · exact inside
  · obtain ⟨more, rfl⟩ := longer
    rw [List.prefix_append_right_inj, ends] at starts
    cases more with
    | nil => rw [List.append_nil]
    | cons c more =>
        obtain ⟨rfl, -⟩ := List.cons_prefix_cons.mp starts
        exact absurd (letters c (by simp)) noPart

/-- Without anything in front of a name, only the name `export` itself looks like that word, and
then nothing but the sign is left. -/
theorem sides?_afterExport? (named : IsName name) {before : List Char}
    (spacing : IsSpacing before) (right : List Char) :
    (afterExport? (name ++ (before ++ '=' :: right))).bind sides? = none := by
  rw [Option.bind_eq_none_iff]
  intro rest found
  simp only [afterExport?] at found
  split at found
  · rename_i both
    obtain ⟨starts, begins⟩ := Bool.and_eq_true_iff.mp both
    have letters : ∀ c ∈ "export".toList, Text.isNamePart c = true :=
      List.all_eq_true.mp (by decide)
    obtain ⟨more, rfl⟩ := prefix_name letters spacing (List.isPrefixOf_iff_prefix.mp starts)
    rw [List.append_assoc, List.drop_left] at begins found
    cases more with
    | nil =>
        rw [List.nil_append, spacing.dropWhile_isBlank] at found
        obtain rfl := Option.some.inj found
        rfl
    | cons c more =>
        have blank : Text.isBlank c = true := begins
        have part := named.parts c (by simp)
        rw [Text.not_isBlank_of_isNamePart part] at blank
        cases blank
  · cases found

theorem assignment?_written {opening before : List Char} (opened : IsOpening opening)
    (named : IsName name) (spacing : IsSpacing before) (right : List Char) :
    assignment? (opening ++ (name ++ (before ++ '=' :: right))) = some (name, right) := by
  have sides := sides?_named named spacing right
  cases opened with
  | absent =>
      rw [List.nil_append, assignment?, sides?_afterExport? named spacing right]
      exact sides
  | exported gapSpacing nonempty =>
      rw [assignment?, afterExport?_exported gapSpacing nonempty named, Option.bind_some, sides]
      rfl

end Name

/-- What stands in front of the sign begins with a visible character that opens no comment. -/
theorem IsName.front_visible {opening name : List Char} (named : IsName name)
    (opened : IsOpening opening) :
    ∃ c rest, opening ++ name = c :: rest ∧ Text.isBlank c = false ∧ c ≠ '#' := by
  cases opened with
  | exported spacing nonempty => exact ⟨'e', _, rfl, by decide, by decide⟩
  | absent =>
      have parts := named.parts
      obtain ⟨first, others, rfl, start, -⟩ := named
      refine ⟨first, others, rfl, Text.not_isBlank_of_isNamePart (parts first (by simp)), ?_⟩
      rintro rfl
      exact absurd start (by decide)

section Reading

variable {indent opening name before : List Char}

/-- A line gives the name in front of the sign what stands behind it, less its quotes. -/
theorem ofText_assignment (indented : IsSpacing indent) (opened : IsOpening opening)
    (named : IsName name) (spacing : IsSpacing before) (right : List Char) :
    SettingLine.ofText (indent ++ (opening ++ (name ++ (before ++ '=' :: right)))) =
      .setting name (unquote (Text.strip right)) := by
  obtain ⟨c, rest, front, visible, noComment⟩ := named.front_visible opened
  have stripped : Text.strip (indent ++ (opening ++ (name ++ (before ++ '=' :: right)))) =
      opening ++ (name ++ (before ++ '=' :: Text.dropEndWhile Text.isBlank right)) := by
    rw [← List.append_assoc opening, front, List.cons_append,
      Text.strip_append_cons indented.blank visible, ← List.append_assoc rest,
      Text.dropEndWhile_append_cons (by decide), List.append_assoc, ← List.cons_append, ← front,
      List.append_assoc]
  have begun : ∃ rest, opening ++ (name ++
      (before ++ '=' :: Text.dropEndWhile Text.isBlank right)) = c :: rest := by
    rw [← List.append_assoc, front]
    exact ⟨_, rfl⟩
  obtain ⟨line, whole⟩ := begun
  have assigned := assignment?_written opened named spacing
    (Text.dropEndWhile Text.isBlank right)
  rw [SettingLine.ofText, stripped, SettingLine.ofStripped, assigned, whole]
  simp [noComment, Text.strip_dropEndWhile]

theorem unquote_quoted {quote : Char} (quoted : quote = '"' ∨ quote = '\'') (value : List Char) :
    unquote (quote :: (value ++ [quote])) = value := by
  have last : (quote :: (value ++ [quote])).getLast? = some quote := by
    rw [← List.cons_append, List.getLast?_concat]
  have both : isQuoted (quote :: (value ++ [quote])) = true := by
    rcases quoted with rfl | rfl <;> simp [isQuoted, last]
  rw [unquote, if_pos both]
  simp

theorem strip_quoted {after trailing : List Char} {quote : Char} (spacing : IsSpacing after)
    (trailed : IsSpacing trailing) (quoted : quote = '"' ∨ quote = '\'') (value : List Char) :
    Text.strip (after ++ quote :: (value ++ quote :: trailing)) = quote :: (value ++ [quote]) := by
  have visible : Text.isBlank quote = false := by
    rcases quoted with rfl | rfl <;> decide
  have trimmed := Text.dropEndWhile_append_of_pos trailed.blank []
  rw [Text.strip_append_cons spacing.blank visible, Text.dropEndWhile_append_cons visible,
    ← List.nil_append trailing, trimmed]
  rfl

end Reading

/-- Every written line is understood. -/
theorem IsWritten.read {line : List Char} {meant : Option (String × String)}
    (written : IsWritten line meant) :
    SettingLine.entry? (SettingLine.ofText line) = meant ∧ SettingLine.ofText line ≠ .malformed := by
  cases written with
  | blank blank =>
      rw [SettingLine.ofText, Text.strip_blank blank]
      exact ⟨rfl, by decide⟩
  | comment text blank =>
      rw [SettingLine.ofText, Text.strip_append_cons blank (by decide)]
      exact ⟨rfl, fun same => by cases same⟩
  | setting value indented opened named spacedBefore spacedAfter quoted trailed =>
      rw [ofText_assignment indented opened named spacedBefore,
        strip_quoted spacedAfter trailed quoted, unquote_quoted quoted]
      exact ⟨rfl, fun same => by cases same⟩

section File

variable {lines : List (List Char)} {assigned : List (Option (String × String))}

theorem entries_written (written : List.Forall₂ IsWritten lines assigned) :
    (lines.map SettingLine.ofText).filterMap SettingLine.entry? = assigned.reduceOption := by
  induction written with
  | nil => rfl
  | @cons line meant lines assigned here _ ih =>
      have entry := here.read.1
      rw [List.map_cons]
      cases meant with
      | none => rw [List.filterMap_cons_none entry, List.reduceOption_cons_of_none, ih]
      | some setting => rw [List.filterMap_cons_some entry, List.reduceOption_cons_of_some, ih]

theorem understood (written : List.Forall₂ IsWritten lines assigned) :
    ∀ line ∈ lines.map SettingLine.ofText, line ≠ .malformed := by
  rw [List.forall_mem_map]
  induction written with
  | nil => exact List.forall_mem_nil _
  | cons here _ ih => exact List.forall_mem_cons.mpr ⟨here.read.2, ih⟩

theorem malformedFrom_eq_nil {lines : List SettingLine}
    (understood : ∀ line ∈ lines, line ≠ .malformed) (number : Nat) :
    malformedFrom number lines = [] := by
  induction lines generalizing number with
  | nil => rfl
  | cons line lines ih =>
      obtain ⟨here, later⟩ := List.forall_mem_cons.mp understood
      rw [malformedFrom, if_neg here, ih later]

/-- An empty last line is lost where lines are joined, and it sets nothing. -/
theorem settingLines_joined
    (unbroken : ∀ line ∈ lines, ∀ c ∈ line, Text.isLineBoundary c = false) :
    settingLines (['\n'].intercalate lines) = lines.map SettingLine.ofText ∨
      settingLines (['\n'].intercalate lines) ++ [.blank] = lines.map SettingLine.ofText := by
  rcases Text.splitLines_intercalate unbroken with same | shorter
  · left
    rw [settingLines, same]
  · right
    conv_rhs => rw [← shorter, List.map_append]
    rfl

theorem noReturn_joined (unbroken : ∀ line ∈ lines, ∀ c ∈ line, Text.isLineBoundary c = false) :
    '\r' ∉ ['\n'].intercalate lines :=
  Text.not_mem_intercalate (by decide) fun line listed member =>
    absurd (unbroken line listed '\r' member) (by decide)

/-- Each name stands where it was first set, with the value that it was last given. -/
structure KeepsLast (settings assigned : List (String × String)) : Prop where
  order : KeyedList.names settings = (KeyedList.names assigned).eraseDups
  last : ∀ name, KeyedList.get? settings name = KeyedList.get? assigned.reverse name

theorem settings_joined (unbroken : ∀ line ∈ lines, ∀ c ∈ line, Text.isLineBoundary c = false) :
    KeepsLast (settings (['\n'].intercalate lines))
      ((lines.map SettingLine.ofText).filterMap SettingLine.entry?) := by
  have entries : (settingLines (['\n'].intercalate lines)).filterMap SettingLine.entry? =
      (lines.map SettingLine.ofText).filterMap SettingLine.entry? := by
    rcases settingLines_joined unbroken with same | longer
    · rw [same]
    · rw [← longer, List.filterMap_append]
      exact (List.append_nil _).symm
  rw [settings, entries]
  exact ⟨KeyedList.names_ofList _, KeyedList.get?_ofList _⟩

theorem settings_written (written : List.Forall₂ IsWritten lines assigned)
    (unbroken : ∀ line ∈ lines, ∀ c ∈ line, Text.isLineBoundary c = false) :
    KeepsLast (settings (['\n'].intercalate lines)) assigned.reduceOption :=
  entries_written written ▸ settings_joined unbroken

theorem malformedLines_written (written : List.Forall₂ IsWritten lines assigned)
    (unbroken : ∀ line ∈ lines, ∀ c ∈ line, Text.isLineBoundary c = false) :
    malformedLines (['\n'].intercalate lines) = [] := by
  refine malformedFrom_eq_nil (fun line listed => understood written line ?_) 1
  rcases settingLines_joined unbroken with same | longer
  · rwa [← same]
  · rw [← longer]
    exact List.mem_append_left _ listed

/-- A settings file reads back as it was written: every line is understood, and the settings are
those on its lines. -/
theorem read_written {workspace : Workspace} {path : String}
    (written : List.Forall₂ IsWritten lines assigned)
    (unbroken : ∀ line ∈ lines, ∀ c ∈ line, Text.isLineBoundary c = false)
    (holds : workspace.files.content workspace.directory path =
      .ok (Text.Utf8.encode (['\n'].intercalate lines))) :
    ∃ settings, read workspace path = .ok ⟨settings, []⟩ ∧
      KeepsLast settings assigned.reduceOption := by
  have decoded : decodeText (Text.Utf8.encode (['\n'].intercalate lines)) =
      .ok (['\n'].intercalate lines) := by
    rw [decodeText, Text.Utf8.decode_encode]
    exact congrArg Except.ok (Text.normalizeNewlines_eq_self (noReturn_joined unbroken))
  have text := (readText_of_content holds).trans decoded
  refine ⟨_, ?_, settings_written written unbroken⟩
  rw [read_of_text text, malformedLines_written written unbroken]

end File

/-- A project whose settings are in quotes.  One of them is called `export`. -/
def quotedShop : Workspace :=
  ⟨⟨[(["shop"], .directory),
      (["shop", ".env"], .file
        "# colours\n\n\texport HUE = \"a \"b\" #c=d\"  \nexport=''\nHUE='é'".toUTF8.data.toList)]⟩,
    ["shop"]⟩

theorem quotedShop_read :
    ∃ settings, read quotedShop ".env" = .ok ⟨settings, []⟩ ∧
      KeepsLast settings [("HUE", "a \"b\" #c=d"), ("export", ""), ("HUE", "é")] := by
  have named : IsName "HUE".toList ∧ IsName "export".toList :=
    ⟨⟨'H', ['U', 'E'], rfl, rfl, List.all_eq_true.mp rfl⟩,
      ⟨'e', "xport".toList, rfl, rfl, List.all_eq_true.mp (by decide)⟩⟩
  have spacing : IsSpacing [] ∧ IsSpacing [' '] ∧ IsSpacing ['\t'] ∧ IsSpacing [' ', ' '] := by
    simp [IsSpacing]
  obtain ⟨tight, space, tab, spaces⟩ := spacing
  have first : IsWritten "\texport HUE = \"a \"b\" #c=d\"  ".toList
      (some ("HUE", "a \"b\" #c=d")) :=
    .setting "a \"b\" #c=d".toList tab (.exported space (by decide)) named.1 space space
      (Or.inl rfl) spaces
  have second : IsWritten "export=''".toList (some ("export", "")) :=
    .setting [] tight .absent named.2 tight tight (Or.inr rfl) tight
  have third : IsWritten "HUE='é'".toList (some ("HUE", "é")) :=
    .setting ['é'] tight .absent named.1 tight tight (Or.inr rfl) tight
  have comment : IsWritten "# colours".toList none :=
    .comment " colours".toList (List.forall_mem_nil _)
  have blank : IsWritten [] none := .blank (List.forall_mem_nil _)
  have written := List.Forall₂.cons comment (.cons blank (.cons first (.cons second
    (.cons third .nil))))
  exact read_written written (Text.unbroken_of_all (by decide))
    (toOption_eq_some.mp (by decide +kernel))

end SettingsFile

end AssetAudit
