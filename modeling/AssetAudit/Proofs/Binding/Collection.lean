import AssetAudit.Proofs.Binding.Exclusion
import AssetAudit.Proofs.Binding.Merging
import AssetAudit.Proofs.Pattern.Finding
import AssetAudit.Proofs.StableSort
import Mathlib.Data.List.Pairwise
import Mathlib.Order.Bounds.Defs

namespace AssetAudit

/-! The bindings that rules collect from a text.  Where no two rules match at one place, the offset
of a match tells which rule it belongs to, so the order of the rules is never seen. -/

section Lists

variable {α β κ : Type} [DecidableEq κ] {items others : List α}

/-- In a list in ascending order, the keys in order of appearance are those of the items that have
them first. -/
theorem exists_firsts (key : α → κ) (number : α → Nat)
    (ascending : items.Pairwise fun first second => number first ≤ number second) :
    ∃ firsts : List α, firsts.Sublist items ∧ firsts.map key = (items.map key).eraseDups ∧
      ∀ first ∈ firsts, ∀ item ∈ items, key item = key first → number first ≤ number item := by
  induction items using List.reverseRecOn with
  | nil => exact ⟨[], .slnil, rfl, by simp⟩
  | append_singleton items last ih =>
      obtain ⟨earlier, _, below⟩ := List.pairwise_append.mp ascending
      obtain ⟨firsts, among, keys, least⟩ := ih earlier
      rw [List.map_append, List.map_singleton, eraseDups_concat]
      split
      · -- the last item stands behind the first one with its key
        refine ⟨firsts, among.trans (List.sublist_append_left _ _), keys, ?_⟩
        intro first member item inside same
        rcases List.mem_append.mp inside with old | new
        · exact least first member item old same
        · exact below first (among.mem member) item new
      · rename_i fresh
        refine ⟨firsts ++ [last], among.append_right _, by rw [List.map_append, keys]; rfl, ?_⟩
        intro first member item inside same
        rcases List.mem_append.mp inside with old | new
        · rcases List.mem_append.mp member with known | added
          · exact least first known item old same
          · rw [List.mem_singleton.mp added] at same
            exact absurd (same ▸ List.mem_map_of_mem old) fresh
        · obtain rfl := List.mem_singleton.mp new
          rcases List.mem_append.mp member with known | added
          · exact below first (among.mem known) item new
          · rw [List.mem_singleton.mp added]

/-- The order does not matter where no two items give anything. -/
theorem flatMap_eq_of_perm {f : α → List β} (reordered : others.Perm items)
    (apart : others.Pairwise fun first second => f first = [] ∨ f second = []) :
    others.flatMap f = items.flatMap f := by
  induction reordered with
  | nil => rfl
  | cons item _ ih => rw [List.flatMap_cons, List.flatMap_cons, ih apart.of_cons]
  | swap first second rest =>
      obtain ⟨here, _⟩ := List.pairwise_cons.mp apart
      rcases here first List.mem_cons_self with none | none
      · simp [none]
      · simp [none]
  | trans one _ oneIh otherIh =>
      rw [oneIh apart, otherIh (apart.perm one fun none => none.symm)]

end Lists

variable {rules others : List BindingRule} {rule other : BindingRule} {text : List Char}

namespace BoundValue

/-- The values that rules find in a text, in the order of their matches. -/
def ofRules (rules : List BindingRule) (text : List Char) : List BoundValue :=
  sortedBy offset (rules.flatMap (ofRule text))

theorem ofSource_eq (source : SourceFile) :
    ofSource source = ofRules (BindingRule.ofCategory source.category) source.text.toList := rfl

theorem ofRules_ascending (rules : List BindingRule) (text : List Char) :
    (ofRules rules text).Pairwise fun first second => first.offset ≤ second.offset :=
  sortedBy_ascending offset _

/-- A match of a rule in the text gives a name this value. -/
def IsGivenBy (rule : BindingRule) (text : List Char) (bound : BoundValue) : Prop :=
  ∃ found ∈ rule.pattern.findAll text, bound.offset = found.offset ∧
    bound.identifier = found.capturedText 0 ∧
      bound.value ∈ BindingRule.values rule.shape (found.captured 1)

def IsGiven (rules : List BindingRule) (text : List Char) (bound : BoundValue) : Prop :=
  ∃ rule ∈ rules, bound.IsGivenBy rule text

variable {bound : BoundValue}

theorem mem_ofRule : bound ∈ ofRule text rule ↔ bound.IsGivenBy rule text := by
  rw [ofRule, List.mem_flatMap]
  refine exists_congr fun found => and_congr_right fun _ => ?_
  rw [List.mem_map]
  constructor
  · rintro ⟨value, member, rfl⟩
    exact ⟨rfl, rfl, member⟩
  · rintro ⟨offset, identifier, member⟩
    exact ⟨bound.value, member, by rw [← offset, ← identifier]⟩

theorem mem_ofRules : bound ∈ ofRules rules text ↔ bound.IsGiven rules text := by
  rw [ofRules, List.mem_mergeSort, List.mem_flatMap]
  exact exists_congr fun rule => and_congr_right fun _ => mem_ofRule

theorem IsGivenBy.value_ne (given : bound.IsGivenBy rule text) : bound.value ≠ "" := by
  obtain ⟨found, _, _, _, member⟩ := given
  obtain ⟨chars, kept, same⟩ := List.mem_map.mp member
  have filled := (List.mem_filter.mp kept).2
  rw [← same]
  intro empty
  rw [String.ofList_eq_empty_iff.mp empty] at filled
  cases filled

/-- Values with one offset come from matches at one place. -/
theorem IsGivenBy.same_place {another : BoundValue} (given : bound.IsGivenBy rule text)
    (alsoGiven : another.IsGivenBy other text) (sameOffset : bound.offset = another.offset) :
    ∃ cursor found otherFound, rule.pattern.matchAt? cursor = some found ∧
      other.pattern.matchAt? cursor = some otherFound ∧
        bound.identifier = found.capturedText 0 ∧
          another.identifier = otherFound.capturedText 0 := by
  obtain ⟨found, member, offset, identifier, _⟩ := given
  obtain ⟨otherFound, among, otherOffset, otherIdentifier, _⟩ := alsoGiven
  obtain ⟨_, inText, matched⟩ := Pattern.mem_findAllFrom member
  obtain ⟨_, otherInText, otherMatched⟩ := Pattern.mem_findAllFrom among
  have samePlace : found.start = otherFound.start :=
    Cursor.eq_of_offset (inText.trans otherInText.symm)
      (offset.symm.trans (sameOffset.trans otherOffset))
  exact ⟨found.start, found, otherFound, matched, samePlace ▸ otherMatched, identifier,
    otherIdentifier⟩

theorem IsGivenBy.not_excludes {another : BoundValue} (given : bound.IsGivenBy rule text)
    (alsoGiven : another.IsGivenBy other text) (sameOffset : bound.offset = another.offset) :
    ¬ rule.pattern.Excludes other.pattern := by
  intro excludes
  obtain ⟨cursor, found, otherFound, matched, otherMatched, _⟩ :=
    given.same_place alsoGiven sameOffset
  rcases excludes.matchAt? cursor with none | none
  · cases none.symm.trans matched
  · cases none.symm.trans otherMatched

variable (exclusive : rules.Pairwise fun first second => first.pattern.Excludes second.pattern)
include exclusive

/-- Rules that exclude each other give no two names at one offset. -/
theorem IsGiven.same_identifier {another : BoundValue} (given : bound.IsGiven rules text)
    (alsoGiven : another.IsGiven rules text) (sameOffset : bound.offset = another.offset) :
    bound.identifier = another.identifier := by
  obtain ⟨rule, member, given⟩ := given
  obtain ⟨other, among, alsoGiven⟩ := alsoGiven
  have sameRule : rule = other := by
    by_contra different
    have : Std.Symm fun first second : BindingRule => first.pattern.Excludes second.pattern :=
      ⟨fun _ _ excludes => excludes.symm⟩
    exact given.not_excludes alsoGiven sameOffset (exclusive.forall member among different)
  subst sameRule
  obtain ⟨cursor, found, otherFound, matched, otherMatched, identifier, otherIdentifier⟩ :=
    given.same_place alsoGiven sameOffset
  obtain rfl := Option.some.inj (matched.symm.trans otherMatched)
  exact identifier.trans otherIdentifier.symm

/-- Rules that exclude each other collect the same in every order. -/
theorem ofRules_eq_of_perm (reordered : others.Perm rules) :
    ofRules others text = ofRules rules text := by
  refine (sortedBy_congr fun number => ?_).symm
  -- at one offset no two rules give anything
  rw [List.filter_flatMap, List.filter_flatMap]
  refine flatMap_eq_of_perm reordered.symm ?_
  refine exclusive.imp fun {first second} excludes => ?_
  rw [List.filter_eq_nil_iff, List.filter_eq_nil_iff]
  by_contra both
  simp only [not_or, not_forall, Decidable.not_not, decide_eq_true_eq] at both
  obtain ⟨⟨bound, member, offset⟩, another, among, otherOffset⟩ := both
  exact (mem_ofRule.mp member).not_excludes (mem_ofRule.mp among)
    (offset.trans otherOffset.symm) excludes

end BoundValue

/-- The offsets of the matches that give a name some value. -/
def offsetsOfName (rules : List BindingRule) (text : List Char) (identifier : String) : Set Nat :=
  {offset | ∃ value, BoundValue.IsGiven rules text ⟨offset, identifier, value⟩}

/-- The offsets of the matches that give a name this value. -/
def offsetsOfValue (rules : List BindingRule) (text : List Char) (identifier value : String) :
    Set Nat :=
  {offset | BoundValue.IsGiven rules text ⟨offset, identifier, value⟩}

namespace Binding

open BoundValue (valuesOf)

/-- The bindings that rules find in a text. -/
def ofRules (rules : List BindingRule) (text : List Char) : List Binding :=
  BoundValue.merged (BoundValue.ofRules rules text)

/-- The bindings hold what the rules find in the text and nothing else: every name and every value
of it once, by the offset of the match that first gave it. -/
structure IsCollected (rules : List BindingRule) (text : List Char) (bindings : List Binding) :
    Prop where
  distinct : (bindings.map (·.identifier)).Nodup
  valued : ∀ binding ∈ bindings,
    binding.values ≠ [] ∧ binding.values.Nodup ∧ ∀ value ∈ binding.values, value ≠ ""
  given_iff : ∀ identifier value,
    (∃ binding ∈ bindings, binding.identifier = identifier ∧ value ∈ binding.values) ↔
      ∃ offset, BoundValue.IsGiven rules text ⟨offset, identifier, value⟩
  names_ascend : (bindings.map (·.identifier)).Pairwise fun first second =>
    ∃ here there, IsLeast (offsetsOfName rules text first) here ∧
      IsLeast (offsetsOfName rules text second) there ∧ here < there
  values_ascend : ∀ binding ∈ bindings, binding.values.Pairwise fun first second =>
    ∃ here there, IsLeast (offsetsOfValue rules text binding.identifier first) here ∧
      IsLeast (offsetsOfValue rules text binding.identifier second) there ∧ here ≤ there

theorem mem_valuesOf {identifier value : String} :
    value ∈ valuesOf (BoundValue.ofRules rules text) identifier ↔
      ∃ offset, BoundValue.IsGiven rules text ⟨offset, identifier, value⟩ := by
  rw [valuesOf, List.mem_eraseDups, List.mem_map]
  constructor
  · rintro ⟨bound, member, rfl⟩
    obtain ⟨inside, same⟩ := List.mem_filter.mp member
    obtain rfl := of_decide_eq_true same
    exact ⟨bound.offset, BoundValue.mem_ofRules.mp inside⟩
  · rintro ⟨offset, given⟩
    exact ⟨_, List.mem_filter.mpr ⟨BoundValue.mem_ofRules.mpr given, by simp⟩, rfl⟩

theorem names_ofRules (rules : List BindingRule) (text : List Char) :
    (ofRules rules text).map (·.identifier) =
      ((BoundValue.ofRules rules text).map (·.identifier)).eraseDups := by
  rw [ofRules, BoundValue.merged_eq_inOrder, BoundValue.inOrder, List.map_map]
  exact List.map_id _

theorem mem_ofRules {binding : Binding} :
    binding ∈ ofRules rules text ↔
      binding.identifier ∈ (BoundValue.ofRules rules text).map (·.identifier) ∧
        binding.values = valuesOf (BoundValue.ofRules rules text) binding.identifier := by
  rw [ofRules, BoundValue.merged_eq_inOrder, BoundValue.inOrder, List.mem_map]
  constructor
  · rintro ⟨identifier, member, rfl⟩
    exact ⟨List.mem_eraseDups.mp member, rfl⟩
  · rintro ⟨named, values⟩
    exact ⟨binding.identifier, List.mem_eraseDups.mpr named,
      congrArg (mk binding.identifier) values.symm⟩

theorem values_ascend_ofRules (rules : List BindingRule) (text : List Char)
    (identifier : String) :
    (valuesOf (BoundValue.ofRules rules text) identifier).Pairwise fun first second =>
      ∃ here there, IsLeast (offsetsOfValue rules text identifier first) here ∧
        IsLeast (offsetsOfValue rules text identifier second) there ∧ here ≤ there := by
  have ascending := (BoundValue.ofRules_ascending rules text).filter (·.identifier = identifier)
  obtain ⟨firsts, among, values, least⟩ := exists_firsts (·.value) BoundValue.offset ascending
  have isLeast {first : BoundValue} (member : first ∈ firsts) :
      IsLeast (offsetsOfValue rules text identifier first.value) first.offset := by
    obtain ⟨inside, same⟩ := List.mem_filter.mp (among.mem member)
    obtain rfl := of_decide_eq_true same
    refine ⟨BoundValue.mem_ofRules.mp inside, fun offset other => ?_⟩
    exact least first member _
      (List.mem_filter.mpr ⟨BoundValue.mem_ofRules.mpr other, by simp⟩) rfl
  rw [valuesOf, ← values, List.pairwise_map]
  refine (ascending.sublist among).imp_of_mem fun member later inOrder => ?_
  exact ⟨_, _, isLeast member, isLeast later, inOrder⟩

variable (exclusive : rules.Pairwise fun first second => first.pattern.Excludes second.pattern)
include exclusive

theorem names_ascend_ofRules :
    ((ofRules rules text).map (·.identifier)).Pairwise fun first second =>
      ∃ here there, IsLeast (offsetsOfName rules text first) here ∧
        IsLeast (offsetsOfName rules text second) there ∧ here < there := by
  have ascending := BoundValue.ofRules_ascending rules text
  obtain ⟨firsts, among, names, least⟩ :=
    exists_firsts (·.identifier) BoundValue.offset ascending
  have isLeast {first : BoundValue} (member : first ∈ firsts) :
      IsLeast (offsetsOfName rules text first.identifier) first.offset := by
    refine ⟨⟨first.value, BoundValue.mem_ofRules.mp (among.mem member)⟩, ?_⟩
    rintro offset ⟨value, other⟩
    exact least first member _ (BoundValue.mem_ofRules.mpr other) rfl
  have distinct := nodup_eraseDups ((BoundValue.ofRules rules text).map (·.identifier))
  rw [← names, List.Nodup, List.pairwise_map] at distinct
  rw [names_ofRules, ← names, List.pairwise_map]
  refine ((ascending.sublist among).and distinct).imp_of_mem ?_
  intro first second member later ⟨inOrder, different⟩
  refine ⟨_, _, isLeast member, isLeast later, Nat.lt_of_le_of_ne inOrder fun same => ?_⟩
  have given := BoundValue.mem_ofRules.mp (among.mem member)
  exact different (given.same_identifier exclusive
    (BoundValue.mem_ofRules.mp (among.mem later)) same)

theorem isCollected_ofRules : IsCollected rules text (ofRules rules text) where
  distinct := by
    rw [names_ofRules]
    exact nodup_eraseDups _
  valued binding member := by
    obtain ⟨named, values⟩ := mem_ofRules.mp member
    obtain ⟨bound, inside, same⟩ := List.mem_map.mp named
    have some : bound.value ∈ binding.values := by
      rw [values, mem_valuesOf, ← same]
      exact ⟨bound.offset, BoundValue.mem_ofRules.mp inside⟩
    refine ⟨List.ne_nil_of_mem some, values ▸ nodup_eraseDups _, fun value among => ?_⟩
    rw [values, mem_valuesOf] at among
    obtain ⟨_, _, _, given⟩ := among
    exact given.value_ne
  given_iff identifier value := by
    constructor
    · rintro ⟨binding, member, rfl, among⟩
      rwa [(mem_ofRules.mp member).2, mem_valuesOf] at among
    · intro given
      obtain ⟨offset, given⟩ := given
      refine ⟨⟨identifier, valuesOf (BoundValue.ofRules rules text) identifier⟩,
        mem_ofRules.mpr ⟨?_, rfl⟩, rfl, mem_valuesOf.mpr ⟨offset, given⟩⟩
      exact List.mem_map.mpr ⟨_, BoundValue.mem_ofRules.mpr given, rfl⟩
  names_ascend := names_ascend_ofRules exclusive
  values_ascend binding member := by
    rw [(mem_ofRules.mp member).2]
    exact values_ascend_ofRules rules text binding.identifier

end Binding

/-- The bindings of a source are well formed and in the order of their matches.  The order of the
rules does not matter, as no two of them match at one place. -/
theorem bindings_collected (source : SourceFile) :
    Binding.IsCollected (BindingRule.ofCategory source.category) source.text.toList
        (Binding.ofSource source) ∧
      (∀ rules : List BindingRule, rules.Perm (BindingRule.ofCategory source.category) →
        Binding.ofRules rules source.text.toList = Binding.ofSource source) ∧
      (BindingRule.ofCategory source.category).Pairwise fun first second => ∀ cursor,
        first.pattern.matchAt? cursor = none ∨ second.pattern.matchAt? cursor = none := by
  have exclusive := BindingRule.ofCategory_exclusive source.category
  rw [Binding.ofSource_eq, BoundValue.ofSource_eq]
  refine ⟨Binding.isCollected_ofRules exclusive, fun rules reordered => ?_, ?_⟩
  · rw [Binding.ofRules, BoundValue.ofRules_eq_of_perm exclusive reordered]
  · exact exclusive.imp fun excludes cursor => excludes.matchAt? cursor

/-- Names that several rules bind in turns. -/
def themeSource : SourceFile :=
  ⟨"App/Theme.swift", .swift, "case dark = \"Night\"\nlet icons = [\"Sun\", \"Moon\"]\n" ++
    "var dark: String = \"Moon\"\nlet icons = \"Star\""⟩

theorem themeSource_found :
    BindingRule.swift.flatMap (BoundValue.ofRule themeSource.text.toList) =
      [⟨20, "icons", "Sun"⟩, ⟨20, "icons", "Moon"⟩, ⟨48, "dark", "Moon"⟩, ⟨74, "icons", "Star"⟩,
        ⟨0, "dark", "Night"⟩] := by
  decide +kernel

theorem themeSource_collected :
    BindingRule.swift.reverse.Perm BindingRule.swift ∧
      Binding.ofRules BindingRule.swift.reverse themeSource.text.toList =
        [⟨"dark", ["Night", "Moon"]⟩, ⟨"icons", ["Sun", "Moon", "Star"]⟩] := by
  have inOrder : BoundValue.ofSource themeSource =
      [⟨0, "dark", "Night"⟩, ⟨20, "icons", "Sun"⟩, ⟨20, "icons", "Moon"⟩, ⟨48, "dark", "Moon"⟩,
        ⟨74, "icons", "Star"⟩] := by
    rw [BoundValue.ofSource_eq, BoundValue.ofRules]
    refine (congrArg (sortedBy BoundValue.offset) themeSource_found).trans ?_
    simp [List.mergeSort, List.MergeSort.Internal.splitInTwo]
  have bindings : Binding.ofSource themeSource =
      [⟨"dark", ["Night", "Moon"]⟩, ⟨"icons", ["Sun", "Moon", "Star"]⟩] := by
    rw [Binding.ofSource, inOrder]
    decide
  have reordered := List.reverse_perm BindingRule.swift
  exact ⟨reordered, ((bindings_collected themeSource).2.1 _ reordered).trans bindings⟩

end AssetAudit
