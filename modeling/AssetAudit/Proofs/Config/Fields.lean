import AssetAudit.Config.Parse
import AssetAudit.Proofs.KeyedList
import AssetAudit.Proofs.Outcome
import Mathlib.Data.List.Forall2

namespace AssetAudit

/-! The fields of a configuration one by one.  A JSON object gives the fields that it has a key
for, and leaves the others as they are. -/

theorem mapM_string?_eq_some {items : List Json.Value} {texts : List String} :
    items.mapM Json.Value.string? = some texts ↔ items = texts.map .string := by
  induction items generalizing texts with
  | nil => simp [eq_comm]
  | cons item rest ih =>
      rw [List.mapM_cons]
      cases item with
      | string text =>
          simp only [Json.Value.string?, Option.bind_eq_bind, Option.bind_some,
            Option.bind_eq_some_iff, ih, Option.pure_def, Option.some.injEq]
          constructor
          · rintro ⟨others, rfl, rfl⟩
            rfl
          · intro same
            cases texts with
            | nil => cases same
            | cons first others =>
                obtain ⟨here, later⟩ := List.cons.inj same
                exact ⟨others, later, by rw [Json.Value.string.inj here]⟩
      | _ => cases texts <;> simp [Json.Value.string?]

theorem strings?_eq_some {value : Json.Value} {texts : List String} :
    value.strings? = some texts ↔ value = .strings texts := by
  cases value with
  | array items => simp [Json.Value.strings?, Json.Value.strings, mapM_string?_eq_some]
  | _ => simp [Json.Value.strings?, Json.Value.strings]

theorem stringsAt_eq_ok {key : String} {value : Json.Value} {texts : List String} :
    stringsAt key value = .ok texts ↔ value = .strings texts := by
  rw [← strings?_eq_some, stringsAt]
  cases value.strings? <;> simp

theorem positiveAt_eq_ok {key : String} {value : Json.Value} {number : Nat} :
    positiveAt key value = .ok number ↔ 1 ≤ number ∧ value = .int number := by
  cases value with
  | int stated =>
      rw [positiveAt]
      split
      · rename_i positive
        rw [Except.ok.injEq, Json.Value.int.injEq]
        omega
      · rename_i notPositive
        simp only [reduceCtorEq, Json.Value.int.injEq, false_iff, not_and]
        omega
  | _ => simp [positiveAt]

namespace InferenceRule

/-- The value is an object with exactly the two lists of the rule. -/
def IsGivenBy (rule : InferenceRule) (value : Json.Value) : Prop :=
  ∃ members, value = .object members ∧ hasShape members = true ∧
    KeyedList.get? members "keywords" = some (.strings rule.keywords) ∧
      KeyedList.get? members "values" = some (.strings rule.values)

theorem ofValue_eq_ok {index : Nat} {value : Json.Value} {rule : InferenceRule} :
    ofValue index value = .ok rule ↔ rule.IsGivenBy value := by
  constructor
  · intro read
    unfold ofValue at read
    split at read
    · rename_i keywords values hasKeywords hasValues shaped
      obtain ⟨keywordTexts, keywordsRead, read⟩ := bind_eq_ok.mp read
      obtain ⟨valueTexts, valuesRead, read⟩ := bind_eq_ok.mp read
      obtain rfl := Except.ok.inj read
      cases value with
      | object members =>
          exact ⟨members, rfl, shaped, stringsAt_eq_ok.mp keywordsRead ▸ hasKeywords,
            stringsAt_eq_ok.mp valuesRead ▸ hasValues⟩
      | _ => cases hasKeywords
    · cases read
  · rintro ⟨members, rfl, shaped, hasKeywords, hasValues⟩
    simp only [ofValue, Json.Value.member?, Json.Value.object?, hasKeywords, hasValues,
      Option.any_some, shaped]
    exact bind_eq_ok.mpr ⟨_, stringsAt_eq_ok.mpr rfl,
      bind_eq_ok.mpr ⟨_, stringsAt_eq_ok.mpr rfl, rfl⟩⟩

theorem listOfValues_eq_ok {index : Nat} {items : List Json.Value}
    {rules : List InferenceRule} :
    listOfValues index items = .ok rules ↔ List.Forall₂ IsGivenBy rules items := by
  induction items generalizing index rules with
  | nil =>
      rw [List.forall₂_nil_right_iff]
      simp [listOfValues, eq_comm]
  | cons item rest ih =>
      rw [List.forall₂_cons_right_iff]
      constructor
      · intro read
        obtain ⟨first, here, read⟩ := bind_eq_ok.mp read
        obtain ⟨others, later, read⟩ := bind_eq_ok.mp read
        exact ⟨first, others, ofValue_eq_ok.mp here, ih.mp later, (Except.ok.inj read).symm⟩
      · rintro ⟨first, others, here, later, rfl⟩
        exact bind_eq_ok.mpr ⟨first, ofValue_eq_ok.mpr here,
          bind_eq_ok.mpr ⟨others, ih.mpr later, rfl⟩⟩

theorem allOfValue_eq_ok {value : Json.Value} {rules : List InferenceRule} :
    allOfValue value = .ok rules ↔
      ∃ items, value = .array items ∧ List.Forall₂ IsGivenBy rules items := by
  cases value with
  | array items => simp [allOfValue, listOfValues_eq_ok]
  | _ => simp [allOfValue]

end InferenceRule

/-- What stands in a field. -/
inductive FieldContent where
  | rules (rules : List InferenceRule)
  | texts (texts : List String)
  | number (number : Nat)

/-- The content that a JSON value gives a field. -/
inductive FieldContent.IsGivenBy : FieldContent → Json.Value → Prop
  | rules {rules : List InferenceRule} {items : List Json.Value}
      (each : List.Forall₂ InferenceRule.IsGivenBy rules items) :
      IsGivenBy (.rules rules) (.array items)
  | texts (texts : List String) : IsGivenBy (.texts texts) (.strings texts)
  | number {number : Nat} (positive : 1 ≤ number) : IsGivenBy (.number number) (.int number)

theorem ConfigField.ofKey?_eq_some {key : String} {field : ConfigField} :
    ofKey? key = some field ↔ key = field.key := by
  constructor
  · intro found
    have same := List.find?_some found
    exact (of_decide_eq_true same).symm
  · rintro rfl
    cases field <;> rfl

/-- A number is at least one. -/
def FieldContent.IsPositive : FieldContent → Prop
  | .number value => 1 ≤ value
  | _ => True

theorem FieldContent.IsGivenBy.isPositive {content : FieldContent} {value : Json.Value}
    (given : content.IsGivenBy value) : content.IsPositive := by
  cases given with
  | rules | texts => trivial
  | number positive => exact positive

namespace Config

/-- What stands in a field of the configuration. -/
def content (config : Config) : ConfigField → FieldContent
  | .inferenceRules => .rules config.inferenceRules
  | .roleSuffixes => .texts config.roleSuffixes
  | .assetDirectories => .texts config.assetDirectories
  | .hdSuffixes => .texts config.hdSuffixes
  | .fallbackExtensions => .texts config.fallbackExtensions
  | .maxExpansionDepth => .number config.maxExpansionDepth
  | .workers => .number config.workers

variable {base config changed : Config} {field : ConfigField} {value : Json.Value}

theorem set_eq_ok (made : base.set field value = .ok changed) :
    (changed.content field).IsGivenBy value ∧
      ∀ other, other ≠ field → changed.content other = base.content other := by
  cases field with
  | inferenceRules =>
      obtain ⟨rules, read, made⟩ := bind_eq_ok.mp made
      obtain rfl := Except.ok.inj made
      obtain ⟨items, rfl, each⟩ := InferenceRule.allOfValue_eq_ok.mp read
      refine ⟨.rules each, fun other different => ?_⟩
      cases other <;> first | rfl | exact absurd rfl different
  | maxExpansionDepth | workers =>
      obtain ⟨number, read, made⟩ := bind_eq_ok.mp made
      obtain rfl := Except.ok.inj made
      obtain ⟨positive, rfl⟩ := positiveAt_eq_ok.mp read
      refine ⟨.number positive, fun other different => ?_⟩
      cases other <;> first | rfl | exact absurd rfl different
  | roleSuffixes | assetDirectories | hdSuffixes | fallbackExtensions =>
      obtain ⟨texts, read, made⟩ := bind_eq_ok.mp made
      obtain rfl := Except.ok.inj made
      obtain rfl := stringsAt_eq_ok.mp read
      refine ⟨.texts texts, fun other different => ?_⟩
      cases other <;> first | rfl | exact absurd rfl different

/-- The field has the content given, or its old content if none is given. -/
def Takes (changed base : Config) (field : ConfigField) : Option Json.Value → Prop
  | some value => (changed.content field).IsGivenBy value
  | none => changed.content field = base.content field

theorem Takes.of_content_eq {given? : Option Json.Value} (takes : changed.Takes config field given?)
    (same : config.content field = base.content field) : changed.Takes base field given? := by
  cases given? with
  | none => exact Eq.trans takes same
  | some value => exact takes

theorem Takes.congr {other : Config} {given? : Option Json.Value}
    (takes : changed.Takes base field given?) (same : other.content field = changed.content field) :
    other.Takes base field given? := by
  cases given? with
  | none => exact same.trans takes
  | some value =>
      have given : (changed.content field).IsGivenBy value := takes
      exact show (other.content field).IsGivenBy value from same ▸ given

theorem content_withCount (config : Config) (workers : Nat) (other : field ≠ .workers) :
    ({ config with workers } : Config).content field = config.content field := by
  cases field <;> first | rfl | exact absurd rfl other

theorem setAll_takes {members : List (String × Json.Value)}
    (distinct : (KeyedList.names members).Nodup) (made : base.setAll members = .ok changed)
    (field : ConfigField) : changed.Takes base field (KeyedList.get? members field.key) := by
  induction members generalizing base with
  | nil =>
      obtain rfl := Except.ok.inj made
      exact rfl
  | cons entry rest ih =>
      obtain ⟨key, value⟩ := entry
      obtain ⟨fresh, restDistinct⟩ := List.nodup_cons.mp distinct
      rw [setAll] at made
      split at made
      · rename_i named found
        obtain ⟨config, given, made⟩ := bind_eq_ok.mp made
        obtain ⟨takesHere, keepsOthers⟩ := set_eq_ok given
        have further := ih restDistinct made
        obtain rfl := ConfigField.ofKey?_eq_some.mp found
        by_cases same : field = named
        · -- the key comes once, so no later member sets the field again
          subst same
          rw [KeyedList.get?_eq_none.mpr fresh] at further
          rw [KeyedList.get?, if_pos rfl]
          have kept : changed.content field = config.content field := further
          exact show (changed.content field).IsGivenBy value from kept ▸ takesHere
        · have otherKey : named.key ≠ field.key := by
            intro sameKey
            rw [sameKey] at found
            exact same (Option.some.inj
              ((ConfigField.ofKey?_eq_some.mpr rfl).symm.trans found))
          rw [KeyedList.get?, if_neg otherKey]
          exact further.of_content_eq (keepsOthers field same)
      · rename_i unknown
        have otherKey : key ≠ field.key := by
          rintro rfl
          rw [ConfigField.ofKey?_eq_some.mpr rfl] at unknown
          cases unknown
        rw [KeyedList.get?, if_neg otherKey]
        exact ih restDistinct made

/-- A JSON value that is taken is an object, and each field takes what the object has for it. -/
theorem parse_takes (parsed : base.parse value = .ok changed) :
    ∃ members, value = .object members ∧ ((KeyedList.names members).Nodup → ∀ field,
      changed.Takes base field (KeyedList.get? members field.key)) := by
  cases value with
  | object members =>
      rw [parse] at parsed
      split at parsed
      · exact ⟨members, rfl, fun distinct => setAll_takes distinct parsed⟩
      · cases parsed
  | _ => cases parsed

/-- Every number in the configuration is positive. -/
def IsPositive (config : Config) : Prop := ∀ field, (config.content field).IsPositive

theorem isPositive_default : ({} : Config).IsPositive := by
  intro field
  cases field <;> simp [content, FieldContent.IsPositive]

theorem set_isPositive (positive : base.IsPositive) (made : base.set field value = .ok changed) :
    changed.IsPositive := by
  obtain ⟨given, keepsOthers⟩ := set_eq_ok made
  intro other
  by_cases same : other = field
  · exact same ▸ given.isPositive
  · exact keepsOthers other same ▸ positive other

theorem setAll_isPositive {members : List (String × Json.Value)} (positive : base.IsPositive)
    (made : base.setAll members = .ok changed) : changed.IsPositive := by
  induction members generalizing base with
  | nil => exact Except.ok.inj made ▸ positive
  | cons entry rest ih =>
      rw [setAll] at made
      split at made
      · obtain ⟨config, given, made⟩ := bind_eq_ok.mp made
        exact ih (set_isPositive positive given) made
      · exact ih positive made

theorem parse_isPositive (positive : base.IsPositive) (parsed : base.parse value = .ok changed) :
    changed.IsPositive := by
  unfold parse at parsed
  split at parsed
  · split at parsed
    · exact setAll_isPositive positive parsed
    · cases parsed
  · cases parsed

end Config

end AssetAudit
