import AssetAudit.Literal.Table
import AssetAudit.Proofs.Pattern.Analysis

namespace AssetAudit

/-! What the access patterns of the table capture stands between two delimiters, which depend on the
category of the source alone.  Only the arguments of a format call do not. -/

namespace Category

/-- The character in front of a literal in a source of this kind. -/
def opening : Category → Char
  | propertyList => '>'
  | _ => '"'

/-- The character behind a literal, which the literal does not hold. -/
def closing : Category → Char
  | propertyList => '<'
  | _ => '"'

end Category

namespace AccessRule

open Pattern

/-- The names of the rule are captures between these delimiters. -/
def Encloses (rule : AccessRule) (opening closing : Char) : Prop :=
  rule.kind = .name ∧ rule.pattern.Captures 1 (Capture.IsEnclosed opening closing 1) ∨
    rule.kind = .likelyImage ∧ ∃ count,
      rule.pattern.Captures count (Capture.IsEnclosed opening closing 0)

section Letters

variable {c letter : Char}

/-- Only letters are read without case. -/
theorem eq_of_foldLetter (noLetter : letter.toNat < 65) (folded : foldLetter c = letter) :
    c = letter := by
  unfold foldLetter at folded
  split at folded
  · rename_i capital
    simp only [Bool.and_eq_true, decide_eq_true_eq] at capital
    have low : 65 ≤ c.toNat := capital.1
    have high : c.toNat ≤ 90 := capital.2
    have smalls : ∀ code ≤ 90, (Char.ofNat (code + 32)).toNat = code + 32 := by decide
    have small := smalls c.toNat high
    rw [folded] at small
    omega
  · split at folded
    · exact absurd (folded ▸ noLetter) (by decide)
    · split at folded
      · exact absurd (folded ▸ noLetter) (by decide)
      · exact folded

end Letters

theorem quotedName_captures : quotedName.Captures 1 (Capture.IsEnclosed '"' '"' 1) :=
  enclosed_captures rfl rfl (text_endsWith rfl) (takes_of_avoids rfl) (text_startsWith rfl)
    (plain_captures rfl)

theorem quotedFile_captures : quotedFile.Captures 1 (Capture.IsEnclosed '"' '"' 1) :=
  enclosed_captures rfl rfl (text_endsWith rfl) ((takes_of_avoids rfl).mono (by decide))
    (text_startsWith rfl) (plain_captures rfl)

/-- Rules for a quoted name, or for a quoted file where `isFile` says so, behind plain parts. -/
theorem encloses_of_hearts {rules : List AccessRule} (isFile : List Bool)
    (hearts : (rules.map fun rule => (rule.kind, rule.pattern.heart)) =
      isFile.map fun file => (.name, if file then quotedFile else quotedName)) :
    ∀ rule ∈ rules, rule.Encloses '"' '"' := by
  intro rule member
  -- the table itself has functions in it and no equality, but its shape is found by reduction
  have shape := List.mem_map_of_mem (f := fun rule : AccessRule => (rule.kind, rule.pattern.heart))
    member
  rw [hearts] at shape
  obtain ⟨file, -, same⟩ := List.mem_map.mp shape
  obtain ⟨named, heart⟩ := Prod.mk.inj same
  refine Or.inl ⟨named.symm, Captures.of_heart (heart ▸ ?_)⟩
  cases file with
  | false => exact quotedName_captures
  | true => exact quotedFile_captures

theorem swift_encloses : ∀ rule ∈ swift, rule.Encloses '"' '"' :=
  encloses_of_hearts (List.replicate 7 false ++ true :: List.replicate 10 false) rfl

theorem objectiveC_encloses :
    ∀ rule ∈ objectiveC, rule.name ≠ "string-with-format" → rule.Encloses '"' '"' := by
  have quoted : ∀ rule ∈ objectiveC.dropLast, rule.Encloses '"' '"' :=
    encloses_of_hearts (List.replicate 4 false ++ true :: List.replicate 3 false) rfl
  have cut : objectiveC = objectiveC.dropLast ++ [objectiveC.getLast (by decide)] :=
    (List.dropLast_concat_getLast _).symm
  intro rule member named
  rw [cut] at member
  rcases List.mem_append.mp member with front | last
  · exact quoted rule front
  · obtain rfl := List.mem_singleton.mp last
    exact absurd rfl named

theorem interfaceBuilder_encloses : ∀ rule ∈ interfaceBuilder, rule.Encloses '"' '"' :=
  encloses_of_hearts (List.replicate 9 false) rfl

theorem keyedString_captures (key : String) :
    (keyedString key).Captures 1 (Capture.IsEnclosed '>' '<' 1) := by
  have opens : (text "<string>").EndsWith '>' := text_endsWith rfl
  exact Captures.of_heart (enclosed_captures rfl rfl opens (takes_of_avoids rfl)
    (text_startsWith rfl) (plain_captures rfl))

/-- The name of an image file in a string element. -/
def fileElement : Pattern :=
  .sequence [anyCase "<string>", .capture (.seq (.run (· ≠ '<')) imageExtension),
    anyCase "</string>"]

theorem anyCase_opens : (anyCase "<string>").EndsWith '>' := by
  have final : (char fun c => foldLetter c == '>').EndsWith '>' :=
    char_endsWith fun _ folded => eq_of_foldLetter (by decide) (eq_of_beq folded)
  exact EndsWith.sequence
    ("<string".toList.map fun letter => .char fun c => foldLetter c == letter) final

theorem anyCase_closes : (anyCase "</string>").StartsWith '<' := by
  have start : (char fun c => foldLetter c == '<').StartsWith '<' :=
    char_startsWith fun _ folded => eq_of_foldLetter (by decide) (eq_of_beq folded)
  exact StartsWith.sequence
    ("/string>".toList.map fun letter => .char fun c => foldLetter c == letter) start

theorem fileElement_captures : fileElement.Captures 1 (Capture.IsEnclosed '>' '<' 1) :=
  enclosed_captures rfl rfl anyCase_opens ((takes_of_avoids rfl).mono (by decide)) anyCase_closes
    (plain_captures rfl)

theorem propertyList_encloses : ∀ rule ∈ propertyList, rule.Encloses '>' '<' := by
  have rules : propertyList = [("bundle-icon-name", "CFBundleIconName"),
      ("bundle-icon-file", "CFBundleIconFile"), ("launch-image-file", "UILaunchImageFile"),
      ("launch-storyboard", "UILaunchStoryboardName")].map
        (fun (name, key) => ⟨name, keyedString key, .name⟩) ++
      [⟨"image-string", fileElement, .name⟩] := rfl
  intro rule member
  rw [rules] at member
  rcases List.mem_append.mp member with keyed | file
  · obtain ⟨⟨name, key⟩, -, rfl⟩ := List.mem_map.mp keyed
    exact Or.inl ⟨rfl, keyedString_captures key⟩
  · obtain rfl := List.mem_singleton.mp file
    exact Or.inl ⟨rfl, fileElement_captures⟩

theorem strings_encloses : ∀ rule ∈ strings, rule.Encloses '"' '"' := by
  intro rule member
  obtain rfl := List.mem_singleton.mp member
  have name : quotedName.Captures 1 (Capture.IsEnclosed '"' '"' 0) :=
    quotedName_captures.mono fun _ enclosed => enclosed.mono (Nat.zero_le 1)
  have value : (seq quotedName (seq blanks ";")).Captures 1 (Capture.IsEnclosed '"' '"' 0) :=
    name.seq (plain_captures rfl)
  have opens : (text "\"").EndsWith '"' := text_endsWith rfl
  have closes : (sequence ["\"", blanks, "=", blanks, quotedName, blanks, ";"]).StartsWith '"' :=
    (text_startsWith rfl).seq
  have inside : (run (· ≠ '"')).Takes (· ≠ '"') 0 := takes_of_avoids rfl
  have key := enclosed_captures rfl rfl opens inside closes
    (Captures.of_heart value)
  exact Or.inr ⟨rfl, 2, key⟩

/-- All rules but that of format calls take their names from between two delimiters. -/
theorem encloses_ofCategory (category : Category) :
    ∀ rule ∈ ofCategory category, rule.name ≠ "string-with-format" →
      rule.Encloses category.opening category.closing := by
  cases category with
  | swift => exact fun rule member _ => swift_encloses rule member
  | objectiveC => exact objectiveC_encloses
  | interfaceBuilder => exact fun rule member _ => interfaceBuilder_encloses rule member
  | propertyList => exact fun rule member _ => propertyList_encloses rule member
  | strings => exact fun rule member _ => strings_encloses rule member
  | fallback => exact fun rule member => absurd member List.not_mem_nil

end AccessRule

end AssetAudit
