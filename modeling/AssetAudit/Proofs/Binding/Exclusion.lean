import AssetAudit.Binding.Collect
import AssetAudit.Proofs.Pattern.Exclusion
import AssetAudit.Proofs.Text.WhiteSpace
import Mathlib.Data.List.Forall2

namespace AssetAudit

/-! The ways to bind a name exclude each other.  Two declarations of one keyword differ in the first
visible character behind the sign that follows the name, all others in their first words. -/

namespace BindingRule

open Pattern

/-- What stands behind the name of a declaration, from its first visible character on. -/
def behindName (text : List Char) : List Char :=
  (((text.drop 3).dropWhile Text.isBlank).dropWhile Text.isWord).dropWhile Text.isBlank

/-- The first visible character behind the sign that follows the name of a declaration. -/
def mark (text : List Char) : Option Char :=
  (((behindName text).drop 1).dropWhile Text.isBlank).head?

/-- The text begins with the keyword of a constant or a variable. -/
def IsDeclaration (text : List Char) : Prop := "let".toList <+: text ∨ "var".toList <+: text

theorem declared_keyword : declared.Needs IsDeclaration :=
  ((text_needs "let").either (text_needs "var")).seq

theorem drop_of_mem_keyword {progress reached : Progress}
    (member : reached ∈ (choice ["let", "var"]).ends progress) :
    progress.cursor.rest.drop 3 = reached.cursor.rest := by
  rcases mem_ends_either.mp member with start | start
  · rw [(mem_ends_text.mp start).1]
    rfl
  · rw [(mem_ends_text.mp start).1]
    rfl

/-- A declaration that goes on with a sign has been read up to what stands behind its name. -/
theorem behindName_of_mem_declared {progress reached : Progress} {sign : Char} {tail : List Char}
    (member : reached ∈ declared.ends progress) (rest : reached.cursor.rest = sign :: tail)
    (visible : Text.isBlank sign = false) (noWord : Text.isWord sign = false) :
    behindName progress.cursor.rest = sign :: tail := by
  obtain ⟨keyword, start, further⟩ := mem_ends_seq.mp member
  obtain ⟨spaced, blanks, named⟩ := mem_ends_seq.mp further
  obtain ⟨worded, captured, gap⟩ := mem_ends_seq.mp named
  obtain ⟨inner, word, rfl⟩ := List.mem_map.mp captured
  have behindGap : inner.cursor.rest.dropWhile Text.isBlank = sign :: tail := by
    rw [dropWhile_of_mem_run gap (by simpa [rest] using visible), rest]
  -- white space or the sign ends the word, and the word ends the white space in front of it
  have wordEnds : ∀ c ∈ inner.cursor.rest.head?, Text.isWord c = false := by
    intro c first
    obtain ⟨later, same⟩ := List.head?_eq_some_iff.mp first
    cases blank : Text.isBlank c with
    | true => exact Text.isWord_of_isBlank blank
    | false =>
        rw [same, List.dropWhile_cons_of_neg (by simp [blank])] at behindGap
        rw [(List.cons.inj behindGap).1]
        exact noWord
  obtain ⟨behindWord, letter, first, isWord⟩ := dropWhile_of_mem_someOf word wordEnds
  have blanksEnd : ∀ c ∈ spaced.cursor.rest.head?, Text.isBlank c = false := by
    intro c head
    obtain rfl := Option.some.inj (first.symm.trans head)
    cases blank : Text.isBlank letter with
    | true => exact absurd (Text.isWord_of_isBlank blank) (by simp [isWord])
    | false => rfl
  have behindBlanks := (dropWhile_of_mem_someOf blanks blanksEnd).1
  rw [behindName, drop_of_mem_keyword start, behindBlanks, behindWord, behindGap]

/-- The text goes on with a sign, white space and this visible character. -/
def IsMarked (c : Char) (text : List Char) : Prop :=
  ∃ sign tail, text = sign :: tail ∧ Text.isBlank sign = false ∧ Text.isWord sign = false ∧
    (tail.dropWhile Text.isBlank).head? = some c

variable {pattern body : Pattern} {c : Char}

theorem sign_needs {piece : String} {sign : Char} (single : piece.toList = [sign])
    (shown : Text.isBlank sign = false) (noWord : Text.isWord sign = false)
    (visible : Text.isBlank c = false) (starts : body.StartsWith c) :
    (seq piece (seq blanks body)).Needs (IsMarked c) := by
  intro progress reached member
  obtain ⟨signed, start, further⟩ := mem_ends_seq.mp member
  obtain ⟨spaced, gap, inside⟩ := mem_ends_seq.mp further
  have first := starts spaced reached inside
  have rest := (mem_ends_text.mp start).1
  rw [single] at rest
  refine ⟨sign, signed.cursor.rest, rest, shown, noWord, ?_⟩
  rw [dropWhile_of_mem_run gap (by rw [first]; rintro d ⟨⟩; exact visible), first]

theorem declared_needs (needs : pattern.Needs (IsMarked c)) :
    (seq declared pattern).Needs fun text => IsDeclaration text ∧ mark text = some c := by
  intro progress reached member
  obtain ⟨middle, named, further⟩ := mem_ends_seq.mp member
  obtain ⟨sign, tail, rest, visible, noWord, marked⟩ := needs middle reached further
  refine ⟨declared_keyword progress middle named, ?_⟩
  rw [mark, behindName_of_mem_declared named rest visible noWord]
  exact marked

/-- Rules that need texts of different kinds exclude each other. -/
theorem exclusive_of_needs {rules : List BindingRule} {kinds : List (List Char → Prop)}
    (each : List.Forall₂ (fun rule kind => rule.pattern.Needs kind) rules kinds)
    (apart : kinds.Pairwise fun kind other => ∀ text, kind text → ¬ other text) :
    rules.Pairwise fun first second => first.pattern.Excludes second.pattern := by
  have sameLength := each.length_eq
  rw [← List.map_snd_zip (Nat.le_of_eq sameLength.symm), List.pairwise_map] at apart
  rw [← List.map_fst_zip (Nat.le_of_eq sameLength), List.pairwise_map]
  refine apart.imp_of_mem fun member among apart => ?_
  exact (List.forall₂_zip each member).excludes (List.forall₂_zip each among) apart

theorem swift_needs :
    List.Forall₂ (fun rule kind => rule.pattern.Needs kind) swift
      [fun text => IsDeclaration text ∧ mark text = some '[',
        fun text => IsDeclaration text ∧ mark text = some 'S',
        fun text => IsDeclaration text ∧ mark text = some '"',
        ("case".toList <+: ·)] := by
  have colon {body : Pattern} {c : Char} (visible : Text.isBlank c = false)
      (starts : body.StartsWith c) : (seq ":" (seq blanks body)).Needs (IsMarked c) :=
    sign_needs rfl (by decide) (by decide) visible starts
  have equals {body : Pattern} {c : Char} (visible : Text.isBlank c = false)
      (starts : body.StartsWith c) : (seq "=" (seq blanks body)).Needs (IsMarked c) :=
    sign_needs rfl (by decide) (by decide) visible starts
  refine .cons ?_ (.cons ?_ (.cons ?_ (.cons ?_ .nil)))
  · exact declared_needs (optional_needs (colon (by decide) (text_startsWith rfl).seq)
      (equals (by decide) (text_startsWith rfl).seq))
  · exact declared_needs (colon (by decide) (text_startsWith rfl).seq)
  · exact declared_needs (equals (by decide) (text_startsWith rfl).seq)
  · exact (text_needs "case").seq

theorem objectiveC_needs :
    List.Forall₂ (fun rule kind => rule.pattern.Needs kind) objectiveC
      [("NSArray".toList <+: ·), ("NSString".toList <+: ·), ("#define".toList <+: ·)] :=
  .cons (text_needs "NSArray").seq
    (.cons (text_needs "NSString").seq (.cons (text_needs "#define").seq .nil))

theorem swift_exclusive :
    swift.Pairwise fun first second => first.pattern.Excludes second.pattern := by
  have marked {c d : Char} (different : c ≠ d) (text : List Char)
      (here : IsDeclaration text ∧ mark text = some c) :
      ¬ (IsDeclaration text ∧ mark text = some d) := fun there =>
    different (Option.some.inj (here.2.symm.trans there.2))
  have noCase {c : Char} (text : List Char) (here : IsDeclaration text ∧ mark text = some c) :
      ¬ "case".toList <+: text := by
    rcases here.1 with begins | begins
    · exact not_prefix_of_prefix (by decide) (by decide) begins
    · exact not_prefix_of_prefix (by decide) (by decide) begins
  refine exclusive_of_needs swift_needs ?_
  simp only [List.pairwise_cons, List.forall_mem_cons, List.not_mem_nil, false_implies,
    implies_true, and_true, List.Pairwise.nil]
  exact ⟨⟨marked (by decide), marked (by decide), noCase⟩, ⟨marked (by decide), noCase⟩, noCase⟩

theorem objectiveC_exclusive :
    objectiveC.Pairwise fun first second => first.pattern.Excludes second.pattern := by
  refine exclusive_of_needs objectiveC_needs ?_
  simp only [List.pairwise_cons, List.forall_mem_cons, List.not_mem_nil, false_implies,
    implies_true, and_true, List.Pairwise.nil]
  exact ⟨⟨fun _ => not_prefix_of_prefix (by decide) (by decide),
    fun _ => not_prefix_of_prefix (by decide) (by decide)⟩,
    fun _ => not_prefix_of_prefix (by decide) (by decide)⟩

/-- No two ways to bind a name in one category of sources match at the same place. -/
theorem ofCategory_exclusive (category : Category) :
    (ofCategory category).Pairwise fun first second => first.pattern.Excludes second.pattern := by
  cases category with
  | swift => exact swift_exclusive
  | objectiveC => exact objectiveC_exclusive
  | interfaceBuilder | propertyList | strings | fallback => exact .nil

end BindingRule

end AssetAudit
