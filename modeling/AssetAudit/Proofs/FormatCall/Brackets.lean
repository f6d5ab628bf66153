import AssetAudit.Proofs.FormatCall.Arguments
import AssetAudit.Proofs.FormatCall.Specifiers
import AssetAudit.Proofs.Literal.Found
import AssetAudit.Proofs.Pattern.Preference
import AssetAudit.Proofs.Pattern.Weaving
import AssetAudit.Proofs.Text.Pieces

namespace AssetAudit.FormatCall

/-! A message that formats a text is read up to the first closing square bracket.  The arguments in
front of it are all that the literal is made of. -/

open Pattern

/-- An argument that closes its brackets no sooner than it opens them, without a double quote. -/
structure IsUnquotedArgument (text : List Char) : Prop extends IsArgument text where
  opensFirst : ∀ before, before <+: text → 0 ≤ level before
  unquoted : '"' ∉ text

instance : DecidablePred IsUnquotedArgument := fun text =>
  decidable_of_iff
    (IsArgument text ∧ (∀ before ∈ text.inits, 0 ≤ level before) ∧ '"' ∉ text) <| by
    constructor
    · intro checked
      obtain ⟨isArgument, opensFirst, unquoted⟩ := checked
      exact ⟨isArgument, fun before start => opensFirst before ((List.mem_inits _ _).mpr start),
        unquoted⟩
    · intro argument
      exact ⟨argument.toIsArgument,
        fun before member => argument.opensFirst before ((List.mem_inits _ _).mp member),
        argument.unquoted⟩

theorem specifier_consumes (cursor : Cursor) (found : Match)
    (matched : specifier.matchAt? cursor = some found) : 0 < found.length := by
  obtain ⟨reached, preferred, rfl⟩ := Option.map_eq_some_iff.mp matched
  obtain ⟨middle, percent, rest⟩ := mem_ends_seq.mp (List.mem_of_head? preferred)
  have start := (mem_ends_text.mp percent).1
  have forward := (suffix_of_mem_ends rest).length_le
  have longer := congrArg List.length start
  simp only [List.length_append] at longer
  have one : "%".toList.length = 1 := rfl
  simp only [Match.length]
  omega

/-- A placeholder with an argument in it. -/
def placeholder (argument : String) : List Char := "\\(".toList ++ argument.toList ++ [')']

theorem interleave_eq_weave (texts : List (List Char)) (arguments : List String) :
    interleave texts arguments = weave texts (arguments.map placeholder) := by
  fun_induction interleave texts arguments with
  | case1 => rfl
  | case2 => rfl
  | case3 text texts several =>
      obtain ⟨next, rest, rfl⟩ := List.exists_cons_of_ne_nil several
      rfl
  | case4 text texts argument arguments several ih =>
      rw [List.map_cons, weave_cons several, ih, placeholder]
      simp only [List.append_assoc]

theorem strip_sublist (text : List Char) : (Text.strip text).Sublist text := by
  have ended : (Text.strip text).Sublist (text.dropWhile Text.isBlank) := by
    have reversed := (List.dropWhile_sublist Text.isBlank
      (l := (text.dropWhile Text.isBlank).reverse)).reverse
    rwa [List.reverse_reverse] at reversed
  exact ended.trans (List.dropWhile_sublist _)

theorem mem_splitArgumentsFrom {level : Int} {piece text argument : List Char} {c : Char}
    (split : argument ∈ splitArgumentsFrom level piece text) (member : c ∈ argument) :
    c ∈ piece ∨ c ∈ text := by
  induction text generalizing level piece with
  | nil =>
      rw [splitArgumentsFrom] at split
      split at split
      · cases split
      · rw [List.mem_singleton.mp split] at member
        exact Or.inl (List.mem_reverse.mp ((strip_sublist _).subset member))
  | cons d text ih =>
      rw [splitArgumentsFrom] at split
      split at split
      · rcases List.mem_cons.mp split with rfl | later
        · exact Or.inl (List.mem_reverse.mp ((strip_sublist _).subset member))
        · rcases ih later with none | behind
          · cases none
          · exact Or.inr (List.mem_cons_of_mem d behind)
      · rcases ih split with here | behind
        · rcases List.mem_cons.mp here with rfl | before
          · exact Or.inr (by simp)
          · exact Or.inl before
        · exact Or.inr (List.mem_cons_of_mem d behind)

/-- A message with a format string and a list of arguments up to a closing square bracket. -/
def formatMessage : Pattern :=
  .sequence ["stringWithFormat:", .blanks, "@\"", .capture (.run (· ≠ '"')), "\"", .blanks, ",",
    .blanks, .capture (.someOf (· ≠ ']')), "]"]

theorem formatMessage_rule :
    AccessRule.objectiveC.filter (·.name = "string-with-format") =
      [⟨"string-with-format", formatMessage, .formatCall⟩] := rfl

/-- A message with this text in its first quotes and this one in front of its bracket. -/
def messageText (format inside : List Char) : List Char :=
  "stringWithFormat:".toList ++ ("@\"".toList ++ (format ++ ("\"".toList ++ (",".toList ++
    ([' '] ++ (inside ++ "]".toList))))))

theorem messageText_append (format inside tail : List Char) :
    messageText format inside ++ tail =
      "stringWithFormat:".toList ++ ("@\"".toList ++ (format ++ ("\"".toList ++ (",".toList ++
        ([' '] ++ (inside ++ ("]".toList ++ tail))))))) := by
  unfold messageText
  simp only [List.append_assoc]

theorem messageText_ne_nil (format inside : List Char) : messageText format inside ≠ [] :=
  List.append_ne_nil_of_left_ne_nil (by decide) _

theorem formatMessage_prefers {format inside : List Char} (unquoted : '"' ∉ format)
    (unclosed : ']' ∉ inside) {c : Char} (start : inside.head? = some c)
    (visible : Text.isBlank c = false) (before tail : List Char) :
    ∃ reached,
      formatMessage.Prefers ⟨⟨before, messageText format inside ++ tail⟩, []⟩ reached ∧
        reached.cursor.rest = tail ∧
        reached.captures.reverse.map Capture.chars = [format, inside] := by
  have nonempty : inside ≠ [] := by
    rintro rfl
    cases start
  have quoteless : ∀ d ∈ format, decide (d ≠ '"') = true :=
    fun d member => decide_eq_true fun same => unquoted (same ▸ member)
  have bracketless : ∀ d ∈ inside, decide (d ≠ ']') = true :=
    fun d member => decide_eq_true fun same => unclosed (same ▸ member)
  have blank : ∀ d ∈ [' '], Text.isBlank d = true := by
    intro d member
    obtain rfl := List.mem_singleton.mp member
    decide
  have shown : ∀ d ∈ (inside ++ ("]".toList ++ tail)).head?, Text.isBlank d = false := by
    rw [List.head?_append, start]
    rintro d ⟨⟩
    exact visible
  rw [messageText_append]
  refine ⟨_, prefers_seq (prefers_text _ _) (prefers_seq (prefers_no_run ?_)
    (prefers_seq (prefers_text _ _) (prefers_seq (prefers_capture (prefers_run quoteless ?_))
    (prefers_seq (prefers_text _ _) (prefers_seq (prefers_no_run ?_) (prefers_seq (prefers_text _ _)
    (prefers_seq (prefers_run blank shown)
    (prefers_seq (prefers_capture (prefers_someOf nonempty bracketless ?_))
    (prefers_text _ _))))))))), ?_, ?_⟩
  · rintro d ⟨⟩
    rfl
  · rintro d ⟨⟩
    rfl
  · rintro d ⟨⟩
    rfl
  · rintro d ⟨⟩
    rfl
  · rfl
  · simp only [List.reverse_cons, List.reverse_nil, List.nil_append, List.map_cons, List.map_nil,
      capture_chars, List.singleton_append]

theorem formatMessage_of_ne {c : Char} (other : c ≠ 's') (before rest : List Char) :
    formatMessage.matchAt? ⟨before, c :: rest⟩ = none := by
  refine matchAt?_eq_none fun reached member => ?_
  obtain ⟨middle, start, _⟩ := mem_ends_seq.mp member
  exact other (List.cons.inj (mem_ends_text.mp start).1).1

theorem formatMessage_unquoted (before rest : List Char) (unquoted : '"' ∉ rest) :
    formatMessage.matchAt? ⟨before, rest⟩ = none := by
  refine matchAt?_eq_none fun reached member => ?_
  obtain ⟨named, start, further⟩ := mem_ends_seq.mp member
  obtain ⟨spaced, blanks, quoted⟩ := mem_ends_seq.mp further
  obtain ⟨_, quote, _⟩ := mem_ends_seq.mp quoted
  have inSpaced : '"' ∈ spaced.cursor.rest := by
    rw [(mem_ends_text.mp quote).1]
    simp
  have inNamed := (suffix_of_mem_ends blanks).subset inSpaced
  exact unquoted ((suffix_of_mem_ends start).subset inNamed)

/-- The text of a message that formats a text. -/
def stringWithFormat (format : String) (arguments : List String) : String :=
  "[NSString stringWithFormat:@\"" ++ format ++ "\", " ++ ", ".intercalate arguments ++ "]"

theorem stringWithFormat_chars (format : String) (arguments : List String) :
    (stringWithFormat format arguments).toList =
      "[NSString ".toList ++ messageText format.toList (", ".intercalate arguments).toList := by
  have opening : "[NSString stringWithFormat:@\"".toList =
      "[NSString ".toList ++ ("stringWithFormat:".toList ++ "@\"".toList) := by decide
  have separator : "\", ".toList = "\"".toList ++ (",".toList ++ [' ']) := by decide
  unfold stringWithFormat messageText
  rw [String.toList_append, String.toList_append, String.toList_append, String.toList_append]
  rw [opening, separator]
  simp only [List.append_assoc]

/-- The first closing bracket, in the arguments or behind them, ends the message. -/
theorem messageText_cut (format inside : List Char) :
    ∃ tail, messageText format inside = messageText format (Text.beforeFirst ']' inside) ++ tail ∧
      ∀ c ∈ tail, c ∈ inside ∨ c = ']' := by
  suffices bracket : ∃ tail, inside ++ "]".toList =
      Text.beforeFirst ']' inside ++ ("]".toList ++ tail) ∧ ∀ c ∈ tail, c ∈ inside ∨ c = ']' by
    obtain ⟨tail, same, within⟩ := bracket
    refine ⟨tail, ?_, within⟩
    rw [messageText_append]
    unfold messageText
    rw [same]
  induction inside with
  | nil => exact ⟨[], rfl, by simp⟩
  | cons c inside ih =>
      by_cases closing : c = ']'
      · subst closing
        refine ⟨inside ++ [']'], by simp [Text.beforeFirst], fun d member => ?_⟩
        exact (List.mem_append.mp member).imp (List.mem_cons_of_mem _) List.mem_singleton.mp
      · obtain ⟨tail, same, within⟩ := ih
        refine ⟨tail, ?_, fun d member => (within d member).imp_left (List.mem_cons_of_mem c)⟩
        rw [List.cons_append, same, Text.beforeFirst, Text.beforeFirst,
          List.takeWhile_cons_of_pos (by simp [closing]), List.cons_append]

/-- An argument begins with a character that shows and closes nothing. -/
theorem IsUnquotedArgument.head {argument : List Char} (isArgument : IsUnquotedArgument argument) :
    ∃ c, argument.head? = some c ∧ Text.isBlank c = false ∧ c ≠ ']' := by
  obtain ⟨c, rest, rfl⟩ := List.exists_cons_of_ne_nil isArgument.nonempty
  refine ⟨c, rfl, ?_, ?_⟩
  · cases blank : Text.isBlank c with
    | false => rfl
    | true =>
        have trimmed := congrArg List.length isArgument.trimmed
        have dropped : Text.strip (c :: rest) = Text.strip rest := by
          rw [Text.strip, Text.strip, List.dropWhile_cons_of_pos blank]
        have shorter := (strip_sublist rest).length_le
        rw [dropped, List.length_cons] at trimmed
        omega
  · rintro rfl
    have closed := isArgument.opensFirst [']'] ⟨rest, rfl⟩
    revert closed
    decide

theorem arguments_head {arguments : List String} (nonempty : arguments ≠ [])
    (separate : ∀ argument ∈ arguments, IsUnquotedArgument argument.toList) :
    ∃ c, (", ".intercalate arguments).toList.head? = some c ∧ Text.isBlank c = false ∧ c ≠ ']' := by
  obtain ⟨argument, rest, rfl⟩ := List.exists_cons_of_ne_nil nonempty
  obtain ⟨c, start, visible, other⟩ := (separate argument (by simp)).head
  refine ⟨c, ?_, visible, other⟩
  cases rest with
  | nil => simpa using start
  | cons next rest =>
      rw [String.toList_intercalate, List.map_cons, List.map_cons, List.intercalate_cons_cons,
        List.append_assoc, List.head?_append, start]
      rfl

theorem not_mem_argumentList {c : Char} {arguments : List String} (other : c ∉ ", ".toList)
    (absent : ∀ argument ∈ arguments, c ∉ argument.toList) :
    c ∉ (", ".intercalate arguments).toList := by
  induction arguments with
  | nil => simp
  | cons argument rest ih =>
      have first := absent argument (by simp)
      have later := ih fun next member => absent next (List.mem_cons_of_mem argument member)
      cases rest with
      | nil => simpa using first
      | cons next rest =>
          rw [String.intercalate_cons_cons]
          simp only [String.toList_append, List.mem_append, not_or]
          exact ⟨⟨first, other⟩, later⟩

/-- With as many arguments as conversions all of them are in the templated name. -/
theorem template?_intercalate {format : String} {arguments : List String}
    (nonempty : arguments ≠ [])
    (fit : (specifier.findAll format.toList).length = arguments.length)
    (separate : ∀ argument ∈ arguments, IsArgument argument.toList) :
    template? format (", ".intercalate arguments) =
      some (String.ofList (weave (specifier.cut format.toList) (arguments.map placeholder))) := by
  have positive := List.length_pos_iff.mpr nonempty
  have pieces : (specifier.cut format.toList).length = arguments.length + 1 := by
    rw [length_cut, fit]
  have enough : ¬ ((specifier.cut format.toList).length ≤ 1 ||
      (specifier.cut format.toList).length - 1 > arguments.length) = true := by
    simp only [pieces, Bool.or_eq_true, decide_eq_true_eq]
    omega
  unfold template?
  rw [splitArguments_intercalate separate, if_neg enough, interleave_eq_weave]

theorem mem_placeholder {argument : String} :
    ']' ∈ placeholder argument ↔ ']' ∈ argument.toList := by
  simp [placeholder]

/-- A templated name from a list without closing brackets has none but those of the format string,
so arguments with such brackets are not in it. -/
theorem unclosed_of_template? {format inside : String} {arguments : List String}
    (fit : (specifier.findAll format.toList).length = arguments.length)
    (unclosed : ']' ∉ inside.toList)
    (found : template? format inside =
      some (String.ofList (weave (specifier.cut format.toList) (arguments.map placeholder)))) :
    ∀ argument ∈ arguments, ']' ∉ argument.toList := by
  have pieces : (specifier.cut format.toList).length = (arguments.map placeholder).length + 1 := by
    rw [length_cut, fit, List.length_map]
  simp only [template?] at found
  split at found
  · cases found
  · have same : weave (specifier.cut format.toList) ((splitArguments inside).map placeholder) =
        weave (specifier.cut format.toList) (arguments.map placeholder) := by
      rw [← interleave_eq_weave]
      exact String.ofList_injective (Option.some.inj found)
    have absent : ∀ other ∈ (splitArguments inside).map placeholder, ']' ∉ other := by
      intro other member
      obtain ⟨argument, among, rfl⟩ := List.mem_map.mp member
      obtain ⟨text, split, rfl⟩ := List.mem_map.mp among
      rw [mem_placeholder, String.toList_ofList]
      intro closing
      rcases mem_splitArgumentsFrom split closing with none | within
      · cases none
      · exact unclosed within
    -- both sides have the brackets of the format string, which leaves none for the arguments
    have few := count_weave_le (specifier.cut format.toList) _ absent
    rw [same, count_weave _ _ pieces] at few
    have none : (arguments.map placeholder).flatten.count ']' = 0 := by omega
    intro argument member closing
    refine List.count_eq_zero.mp none (List.mem_flatten.mpr ⟨placeholder argument, ?_, ?_⟩)
    · exact List.mem_map_of_mem member
    · exact mem_placeholder.mpr closing

section Message

variable {format : String} {arguments : List String} (unquoted : '"' ∉ format.toList)
  (nonempty : arguments ≠ [])
  (separate : ∀ argument ∈ arguments, IsUnquotedArgument argument.toList)

include unquoted nonempty separate

theorem findAll_stringWithFormat :
    ∃ found, formatMessage.findAll (stringWithFormat format arguments).toList = [found] ∧
      found.offset = 10 ∧ found.captures.map Capture.chars =
        [format.toList, Text.beforeFirst ']' (", ".intercalate arguments).toList] := by
  obtain ⟨c, start, visible, other⟩ := arguments_head nonempty separate
  obtain ⟨tail, cut, within⟩ :=
    messageText_cut format.toList (", ".intercalate arguments).toList
  have begins : (Text.beforeFirst ']' (", ".intercalate arguments).toList).head? = some c := by
    obtain ⟨rest, same⟩ := List.head?_eq_some_iff.mp start
    rw [same, Text.beforeFirst, List.takeWhile_cons_of_pos (by simpa using other)]
    rfl
  obtain ⟨reached, preferred, stop, captures⟩ := formatMessage_prefers unquoted
    (Text.not_mem_beforeFirst _) begins visible "[NSString ".toList.reverse tail
  -- no quote is left behind the bracket, and another match would need one
  have silent : '"' ∉ tail := by
    intro member
    rcases within '"' member with inside | closing
    · exact not_mem_argumentList (by decide)
        (fun argument among => (separate argument among).unquoted) inside
    · cases closing
  have unmatched : ∀ d ∈ "[NSString ".toList, ∀ before rest,
      formatMessage.matchAt? ⟨before, d :: rest⟩ = none := by
    intro d member before rest
    refine formatMessage_of_ne ?_ before rest
    rintro rfl
    revert member
    decide
  have once := findAll_once unmatched (messageText_ne_nil _ _) preferred stop
    (findAllFrom_without formatMessage_unquoted silent)
  rw [stringWithFormat_chars, cut]
  exact ⟨_, once, rfl, captures⟩

theorem literals_stringWithFormat :
    (Literal.ofText .objectiveC (stringWithFormat format arguments)).filter
        (·.rule = "string-with-format") =
      (template? format
        (String.ofList (Text.beforeFirst ']' (", ".intercalate arguments).toList))).toList.map
          fun name => ⟨"string-with-format", name, 1⟩ := by
  obtain ⟨found, once, offset, captures⟩ := findAll_stringWithFormat unquoted nonempty separate
  have first : found.capturedText 0 = format := by
    rw [Match.capturedText, captured_of_map captures]
    exact String.ofList_toList
  have second : found.capturedText 1 =
      String.ofList (Text.beforeFirst ']' (", ".intercalate arguments).toList) := by
    rw [Match.capturedText, captured_of_map captures]
    rfl
  have line : (Text.LineIndex.ofText (stringWithFormat format arguments).toList).lineOf
      found.offset = 1 := by
    rw [Text.lineOf_ofText, offset, stringWithFormat_chars]
    rfl
  rw [Literal.filter_rule, AccessRule.ofCategory, formatMessage_rule, List.flatMap_singleton,
    Literal.ofRule, once, List.flatMap_singleton, line, AccessRule.names, first, second]

end Message

/-- A message that formats a text yields at most one name, made of the arguments in front of the
first closing square bracket.  It is the format string with all arguments in the place of its
conversions just if none of them has such a bracket. -/
theorem stringWithFormat_keeps_arguments_iff (format : String) (arguments : List String)
    (unquoted : '"' ∉ format.toList) (nonempty : arguments ≠ [])
    (fit : (specifier.findAll format.toList).length = arguments.length)
    (separate : ∀ argument ∈ arguments, IsUnquotedArgument argument.toList) :
    weave (specifier.cut format.toList) ((specifier.findAll format.toList).map Match.chars) =
        format.toList ∧
      (Literal.ofText .objectiveC (stringWithFormat format arguments)).filter
          (·.rule = "string-with-format") =
        (template? format
          (String.ofList (Text.beforeFirst ']' (", ".intercalate arguments).toList))).toList.map
            (fun name => ⟨"string-with-format", name, 1⟩) ∧
      (⟨"string-with-format",
          String.ofList (weave (specifier.cut format.toList) (arguments.map placeholder)), 1⟩ ∈
          (Literal.ofText .objectiveC (stringWithFormat format arguments)).filter
            (·.rule = "string-with-format") ↔
        ∀ argument ∈ arguments, ']' ∉ argument.toList) := by
  have literals := literals_stringWithFormat unquoted nonempty separate
  refine ⟨weave_cut specifier_consumes _, literals, ?_⟩
  rw [literals]
  constructor
  · intro kept
    obtain ⟨name, found, same⟩ := List.mem_map.mp kept
    obtain rfl := congrArg Literal.text same
    have unclosed : ']' ∉ (String.ofList
        (Text.beforeFirst ']' (", ".intercalate arguments).toList)).toList := by
      rw [String.toList_ofList]
      exact Text.not_mem_beforeFirst _
    exact unclosed_of_template? fit unclosed (Option.mem_toList.mp found)
  · intro unclosed
    have whole : Text.beforeFirst ']' (", ".intercalate arguments).toList =
        (", ".intercalate arguments).toList :=
      Text.beforeFirst_plain (not_mem_argumentList (by decide) unclosed)
    rw [whole, String.ofList_toList, template?_intercalate nonempty fit
      fun argument member => (separate argument member).toIsArgument]
    simp

theorem stringWithFormat_loses_bracket :
    (Literal.ofText .objectiveC (stringWithFormat "icon_%@" ["[obj name]"])).filter
        (·.rule = "string-with-format") = [⟨"string-with-format", "icon_\\([obj name)", 1⟩] ∧
      ⟨"string-with-format", "icon_\\([obj name])", 1⟩ ∉
        Literal.ofText .objectiveC (stringWithFormat "icon_%@" ["[obj name]"]) := by
  have kept := stringWithFormat_keeps_arguments_iff "icon_%@" ["[obj name]"] (by decide) (by decide)
    (by decide) (by decide)
  constructor
  · rw [kept.2.1]
    decide
  · intro member
    have all := kept.2.2.mp (List.mem_filter.mpr ⟨member, rfl⟩)
    revert all
    decide

end AssetAudit.FormatCall
