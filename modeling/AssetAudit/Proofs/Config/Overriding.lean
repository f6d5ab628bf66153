import AssetAudit.Proofs.Config.Fields
import AssetAudit.Proofs.Text.CanonicalSet

namespace AssetAudit

/-! Which JSON values a configuration takes in, and what becomes of it when it takes in one after
the other. -/

namespace InferenceRule

/-- The object has exactly the two lists of a rule. -/
def IsForm (value : Json.Value) : Prop :=
  ∃ members, value = .object members ∧
    (KeyedList.names members).Perm ["keywords", "values"] ∧
      ∀ member ∈ members, ∃ texts, member.2 = .strings texts

theorem hasShape_iff {members : List (String × Json.Value)} :
    hasShape members = true ↔ (KeyedList.names members).Perm ["keywords", "values"] := by
  have reordered : (Text.sorted (KeyedList.names members)).Perm (KeyedList.names members) :=
    List.mergeSort_perm _ _
  rw [hasShape, decide_eq_true_iff]
  constructor
  · intro same
    exact same ▸ reordered.symm
  · intro exactly
    have ascending : ["keywords", "values"].Pairwise fun (first second : String) =>
        first ≤ second := by decide
    exact (reordered.trans exactly).eq_of_pairwise (fun _ _ _ _ => String.le_antisymm)
      (Text.sorted_ascending _) ascending

theorem isForm_iff {value : Json.Value} :
    IsForm value ↔ ∃ rule : InferenceRule, rule.IsGivenBy value := by
  constructor
  · rintro ⟨members, rfl, exactly, texts⟩
    have present : ∀ name ∈ ["keywords", "values"],
        ∃ texts, KeyedList.get? members name = some (.strings texts) := by
      intro name listed
      cases found : KeyedList.get? members name with
      | none => exact absurd (exactly.mem_iff.mpr listed) (KeyedList.get?_eq_none.mp found)
      | some value =>
          obtain ⟨texts, same⟩ := texts _ (KeyedList.mem_of_get? found)
          exact ⟨texts, congrArg some same⟩
    obtain ⟨keywords, hasKeywords⟩ := present "keywords" (by decide)
    obtain ⟨values, hasValues⟩ := present "values" (by decide)
    exact ⟨⟨keywords, values⟩, members, rfl, hasShape_iff.mpr exactly, hasKeywords, hasValues⟩
  · rintro ⟨rule, members, rfl, shaped, hasKeywords, hasValues⟩
    have exactly := hasShape_iff.mp shaped
    have distinct : (KeyedList.names members).Nodup := exactly.nodup_iff.mpr (by decide)
    refine ⟨members, rfl, exactly, fun member listed => ?_⟩
    have found := KeyedList.get?_of_mem distinct listed
    have name : member.1 ∈ ["keywords", "values"] :=
      exactly.mem_iff.mp (List.mem_map_of_mem listed)
    rcases List.mem_pair.mp name with same | same
    · rw [same, hasKeywords] at found
      exact ⟨rule.keywords, (Option.some.inj found).symm⟩
    · rw [same, hasValues] at found
      exact ⟨rule.values, (Option.some.inj found).symm⟩

theorem exists_rules_iff {items : List Json.Value} :
    (∃ rules, List.Forall₂ IsGivenBy rules items) ↔ ∀ item ∈ items, IsForm item := by
  induction items with
  | nil => simp
  | cons item items ih =>
      rw [List.forall_mem_cons, ← ih, isForm_iff]
      constructor
      · rintro ⟨rules, each⟩
        cases each with
        | cons here later => exact ⟨⟨_, here⟩, _, later⟩
      · rintro ⟨⟨rule, here⟩, rules, later⟩
        exact ⟨rule :: rules, .cons here later⟩

theorem allOfValue_succeeds {value : Json.Value} :
    (∃ rules, allOfValue value = .ok rules) ↔
      ∃ items, value = .array items ∧ ∀ item ∈ items, IsForm item := by
  simp only [allOfValue_eq_ok]
  rw [exists_comm]
  simp only [exists_and_left, exists_rules_iff]

/-- The rule as a JSON value. -/
def written (rule : InferenceRule) : Json.Value :=
  .object [("keywords", .strings rule.keywords), ("values", .strings rule.values)]

theorem written_isGivenBy (rule : InferenceRule) : rule.IsGivenBy rule.written :=
  ⟨_, rfl, hasShape_iff.mpr (List.Perm.refl _), rfl, rfl⟩

end InferenceRule

theorem ConfigField.key_inj {field other : ConfigField} (same : field.key = other.key) :
    field = other := by
  have found := ofKey?_eq_some.mpr same
  exact Option.some.inj ((ofKey?_eq_some.mpr rfl).symm.trans found)

/-- The values that a field may have. -/
def ConfigField.Accepts (field : ConfigField) (value : Json.Value) : Prop :=
  match field with
  | .inferenceRules => ∃ items, value = .array items ∧ ∀ item ∈ items, InferenceRule.IsForm item
  | .maxExpansionDepth | .workers => ∃ number : Nat, 1 ≤ number ∧ value = .int number
  | .roleSuffixes | .assetDirectories | .hdSuffixes | .fallbackExtensions =>
      ∃ texts, value = .strings texts

/-- The content of a field as a JSON value. -/
def FieldContent.written : FieldContent → Json.Value
  | .rules given => .array (given.map InferenceRule.written)
  | .texts given => .strings given
  | .number given => .int given

theorem FieldContent.IsPositive.isGivenBy {content : FieldContent} (positive : content.IsPositive) :
    content.IsGivenBy content.written := by
  cases content with
  | rules rules =>
      refine .rules ?_
      rw [List.forall₂_map_right_iff, List.forall₂_same]
      exact fun rule _ => rule.written_isGivenBy
  | texts texts => exact .texts texts
  | number number => exact .number positive

theorem FieldContent.isGivenBy_texts {given : List String} {value : Json.Value} :
    (FieldContent.texts given).IsGivenBy value ↔ value = .strings given := by
  constructor
  · rintro ⟨⟩
    rfl
  · rintro rfl
    exact .texts given

theorem FieldContent.isGivenBy_number {given : Nat} {value : Json.Value} :
    (FieldContent.number given).IsGivenBy value ↔ 1 ≤ given ∧ value = .int given := by
  constructor
  · rintro ⟨⟩
    exact ⟨‹_›, rfl⟩
  · rintro ⟨positive, rfl⟩
    exact .number positive

namespace Config

variable {base config changed other : Config} {field : ConfigField} {value : Json.Value}
  {members first second : List (String × Json.Value)}

theorem set_succeeds (base : Config) (field : ConfigField) (value : Json.Value) :
    (∃ changed, base.set field value = .ok changed) ↔ field.Accepts value := by
  cases field with
  | inferenceRules => exact return_succeeds.trans InferenceRule.allOfValue_succeeds
  | maxExpansionDepth | workers =>
      exact return_succeeds.trans (exists_congr fun _ => positiveAt_eq_ok)
  | roleSuffixes | assetDirectories | hdSuffixes | fallbackExtensions =>
      exact return_succeeds.trans (exists_congr fun _ => stringsAt_eq_ok)

theorem setAll_succeeds (base : Config) (members : List (String × Json.Value)) :
    (∃ changed, base.setAll members = .ok changed) ↔
      ∀ member ∈ members, ∀ field : ConfigField, member.1 = field.key → field.Accepts member.2 := by
  induction members generalizing base with
  | nil => exact iff_of_true ⟨base, rfl⟩ (List.forall_mem_nil _)
  | cons member rest ih =>
      obtain ⟨key, value⟩ := member
      rw [List.forall_mem_cons, setAll]
      cases named : ConfigField.ofKey? key with
      | none =>
          have unknown : ∀ field : ConfigField, key = field.key → field.Accepts value := by
            intro field same
            rw [ConfigField.ofKey?_eq_some.mpr same] at named
            cases named
          rw [ih]
          exact (and_iff_right unknown).symm
      | some field =>
          obtain rfl := ConfigField.ofKey?_eq_some.mp named
          have only : (∀ other : ConfigField, field.key = other.key → other.Accepts value) ↔
              field.Accepts value := by
            refine ⟨fun all => all field rfl, fun accepts other same => ?_⟩
            rwa [← ConfigField.key_inj same]
          rw [only, ← set_succeeds base]
          constructor
          · rintro ⟨changed, made⟩
            obtain ⟨config, here, later⟩ := bind_eq_ok.mp made
            exact ⟨⟨config, here⟩, (ih config).mp ⟨changed, later⟩⟩
          · rintro ⟨⟨config, here⟩, later⟩
            obtain ⟨changed, later⟩ := (ih config).mpr later
            exact ⟨changed, bind_eq_ok.mpr ⟨config, here, later⟩⟩

theorem unknownKeys_eq_nil :
    unknownKeys members = [] ↔ ∀ member ∈ members, ∃ field : ConfigField, member.1 = field.key := by
  rw [unknownKeys, Text.sorted_eq_nil, List.filter_eq_nil_iff, KeyedList.names,
    List.forall_mem_map]
  refine forall₂_congr fun member _ => ?_
  rw [Option.isNone_iff_eq_none, ← ne_eq, Option.ne_none_iff_exists']
  exact exists_congr fun _ => ConfigField.ofKey?_eq_some

/-- A JSON object all of whose members are fields with values that they may have. -/
def IsForm (value : Json.Value) : Prop :=
  ∃ members, value = .object members ∧ ∀ member ∈ members,
    ∃ field : ConfigField, member.1 = field.key ∧ field.Accepts member.2

theorem isForm_object :
    IsForm (.object members) ↔ ∀ member ∈ members,
      ∃ field : ConfigField, member.1 = field.key ∧ field.Accepts member.2 := by
  simp only [IsForm, Json.Value.object.injEq, exists_eq_left']

theorem isForm_object_iff_setAll (base : Config) (members : List (String × Json.Value)) :
    IsForm (.object members) ↔
      unknownKeys members = [] ∧ ∃ config, base.setAll members = .ok config := by
  rw [isForm_object, unknownKeys_eq_nil, setAll_succeeds]
  constructor
  · intro each
    refine ⟨fun member listed => (each member listed).imp fun _ => And.left,
      fun member listed field same => ?_⟩
    obtain ⟨other, named, accepts⟩ := each member listed
    rwa [ConfigField.key_inj (same.symm.trans named)]
  · rintro ⟨named, accepts⟩ member listed
    obtain ⟨field, same⟩ := named member listed
    exact ⟨field, same, accepts member listed field same⟩

theorem parse_succeeds (base : Config) (value : Json.Value) :
    (∃ config, base.parse value = .ok config) ↔ IsForm value := by
  cases value with
  | object members =>
      rw [isForm_object_iff_setAll base, parse]
      cases keys : unknownKeys members <;> simp
  | _ => simp [IsForm, parse]

theorem content_eq_of_isGivenBy (given : (config.content field).IsGivenBy value)
    (again : (other.content field).IsGivenBy value) :
    config.content field = other.content field := by
  cases field with
  | inferenceRules =>
      obtain ⟨each⟩ := given
      obtain ⟨others⟩ := again
      have read := InferenceRule.allOfValue_eq_ok.mpr ⟨_, rfl, each⟩
      have same := read.symm.trans (InferenceRule.allOfValue_eq_ok.mpr ⟨_, rfl, others⟩)
      exact congrArg FieldContent.rules (Except.ok.inj same)
  | maxExpansionDepth | workers =>
      obtain ⟨-, rfl⟩ := FieldContent.isGivenBy_number.mp given
      obtain ⟨-, same⟩ := FieldContent.isGivenBy_number.mp again
      exact congrArg FieldContent.number (Int.ofNat_inj.mp (Json.Value.int.inj same))
  | roleSuffixes | assetDirectories | hdSuffixes | fallbackExtensions =>
      have read := strings?_eq_some.mpr (FieldContent.isGivenBy_texts.mp given)
      have same := read.symm.trans (strings?_eq_some.mpr (FieldContent.isGivenBy_texts.mp again))
      exact congrArg FieldContent.texts (Option.some.inj same)

theorem Takes.content_eq {given? : Option Json.Value} (takes : config.Takes base field given?)
    (again : other.Takes base field given?) : config.content field = other.content field := by
  cases given? with
  | none => exact Eq.trans takes again.symm
  | some value => exact content_eq_of_isGivenBy takes again

theorem ext_content (same : ∀ field, config.content field = other.content field) :
    config = other := by
  have rules := FieldContent.rules.inj (same .inferenceRules)
  have suffixes := FieldContent.texts.inj (same .roleSuffixes)
  have directories := FieldContent.texts.inj (same .assetDirectories)
  have marks := FieldContent.texts.inj (same .hdSuffixes)
  have extensions := FieldContent.texts.inj (same .fallbackExtensions)
  have depth := FieldContent.number.inj (same .maxExpansionDepth)
  have workers := FieldContent.number.inj (same .workers)
  cases config
  cases other
  simp_all only

theorem Takes.trans {given? later? : Option Json.Value} (takes : config.Takes base field given?)
    (again : changed.Takes config field later?) :
    changed.Takes base field (later?.or given?) := by
  cases later? with
  | none => exact takes.congr again
  | some value => exact again

theorem parse_object_takes (distinct : (KeyedList.names members).Nodup)
    (parsed : base.parse (.object members) = .ok config) (field : ConfigField) :
    config.Takes base field (KeyedList.get? members field.key) := by
  obtain ⟨_, same, takes⟩ := parse_takes parsed
  obtain rfl := Json.Value.object.inj same
  exact takes distinct field

theorem parse_eq_of_takes (distinct : (KeyedList.names members).Nodup)
    (form : IsForm (.object members))
    (takes : ∀ field, config.Takes base field (KeyedList.get? members field.key)) :
    base.parse (.object members) = .ok config := by
  obtain ⟨changed, parsed⟩ := (parse_succeeds base _).mpr form
  have taken := parse_object_takes distinct parsed
  rw [parsed, ext_content fun field => (taken field).content_eq (takes field)]

theorem IsForm.overridden (form : IsForm (.object first)) (later : IsForm (.object second)) :
    IsForm (.object (KeyedList.ofList (first ++ second))) := by
  rw [isForm_object] at form later ⊢
  intro member listed
  rcases List.mem_append.mp (KeyedList.mem_of_mem_ofList listed) with early | late
  · exact form member early
  · exact later member late

theorem parse_overridden (firstDistinct : (KeyedList.names first).Nodup)
    (secondDistinct : (KeyedList.names second).Nodup)
    (parsed : base.parse (.object first) = .ok config)
    (again : config.parse (.object second) = .ok changed) :
    base.parse (.object (KeyedList.ofList (first ++ second))) = .ok changed := by
  have form := ((parse_succeeds base _).mp ⟨config, parsed⟩).overridden
    ((parse_succeeds config _).mp ⟨changed, again⟩)
  refine parse_eq_of_takes (KeyedList.nodup_names_ofList _) form fun field => ?_
  rw [KeyedList.get?_ofList_append firstDistinct secondDistinct]
  exact (parse_object_takes firstDistinct parsed field).trans
    (parse_object_takes secondDistinct again field)

/-- All fields of a configuration as the members of a JSON object. -/
def written (config : Config) : List (String × Json.Value) :=
  ConfigField.all.map fun field => (field.key, (config.content field).written)

theorem accepts_written (positive : config.IsPositive) (field : ConfigField) :
    field.Accepts (config.content field).written := by
  cases field with
  | inferenceRules =>
      refine ⟨_, rfl, ?_⟩
      rw [List.forall_mem_map]
      exact fun rule _ => InferenceRule.isForm_iff.mpr ⟨rule, rule.written_isGivenBy⟩
  | maxExpansionDepth => exact ⟨_, positive .maxExpansionDepth, rfl⟩
  | workers => exact ⟨_, positive .workers, rfl⟩
  | roleSuffixes | assetDirectories | hdSuffixes | fallbackExtensions => exact ⟨_, rfl⟩

/-- Written out and taken in again, a configuration replaces any other. -/
theorem parse_written (positive : config.IsPositive) (base : Config) :
    base.parse (.object config.written) = .ok config := by
  have distinct : (KeyedList.names config.written).Nodup := by
    rw [written, KeyedList.names, List.map_map]
    change (ConfigField.all.map ConfigField.key).Nodup
    decide
  have form : IsForm (.object config.written) := by
    rw [isForm_object, written, List.forall_mem_map]
    exact fun field _ => ⟨field, rfl, accepts_written positive field⟩
  refine parse_eq_of_takes distinct form fun field => ?_
  have listed : (field.key, (config.content field).written) ∈ config.written :=
    List.mem_map.mpr ⟨field, by cases field <;> decide, rfl⟩
  rw [KeyedList.get?_of_mem distinct listed]
  exact (positive field).isGivenBy

/-- The default configuration, and what becomes of it by taking in JSON values. -/
inductive IsMade : Config → Prop
  | default : IsMade {}
  | parsed {base config : Config} {value : Json.Value} (made : IsMade base)
      (parsed : base.parse value = .ok config) : IsMade config

theorem IsMade.isPositive (made : config.IsMade) : config.IsPositive := by
  induction made with
  | default => exact isPositive_default
  | parsed _ parsed positive => exact parse_isPositive positive parsed

/-- How a configuration takes in JSON values. -/
structure ParseLaws (base : Config) : Prop where
  accepted : ∀ value, (∃ config, base.parse value = .ok config) ↔ IsForm value
  refused : ∀ value, ¬ IsForm value → ∃ fault, base.parse value = .error fault
  taken : ∀ members config, (KeyedList.names members).Nodup →
    base.parse (.object members) = .ok config →
      ∀ field, config.Takes base field (KeyedList.get? members field.key)
  overridden : ∀ first second config changed, (KeyedList.names first).Nodup →
    (KeyedList.names second).Nodup → base.parse (.object first) = .ok config →
      config.parse (.object second) = .ok changed →
        base.parse (.object (KeyedList.ofList (first ++ second))) = .ok changed
  restored : ∀ value config, base.parse value = .ok config →
    ∀ other : Config, other.parse (.object config.written) = .ok config

theorem parse_laws (made : base.IsMade) : base.ParseLaws where
  accepted := parse_succeeds base
  refused value malformed := by
    cases parsed : base.parse value with
    | error fault => exact ⟨fault, rfl⟩
    | ok config => exact absurd ((parse_succeeds base value).mp ⟨config, parsed⟩) malformed
  taken _ _ distinct parsed := parse_object_takes distinct parsed
  overridden _ _ _ _ := parse_overridden
  restored _ _ parsed := parse_written (parse_isPositive made.isPositive parsed)

/-- An object that changes two fields. -/
def glyphs : Json.Value :=
  .object [("role_suffixes", .strings ["Glyph"]), ("workers", .int 2)]

theorem glyphs_laws :
    ({} : Config).parse glyphs = .ok { roleSuffixes := ["Glyph"], workers := 2 } ∧
      ParseLaws { roleSuffixes := ["Glyph"], workers := 2 } := by
  have parsed : ({} : Config).parse glyphs =
      .ok { roleSuffixes := ["Glyph"], workers := 2 } := toOption_eq_some.mp (by decide +kernel)
  exact ⟨parsed, parse_laws (.parsed .default parsed)⟩

end Config

end AssetAudit
