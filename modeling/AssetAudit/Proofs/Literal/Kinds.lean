import AssetAudit.Project.Survey
import AssetAudit.Proofs.Placeholder.Grammar
import AssetAudit.Proofs.Text.Trimming
import Mathlib.Data.List.Forall2

namespace AssetAudit

/-! What becomes of the literals of a source.  Those that are blank or hold a broken placeholder are
dropped, and each other one is a reference or a template. -/

theorem OpensPlaceholder.of_append_left {front rest : List Char} (plain : '\\' ∉ front)
    (opens : OpensPlaceholder (front ++ rest)) : OpensPlaceholder rest := by
  induction front with
  | nil => exact opens
  | cons c front ih =>
      rcases opensPlaceholder_cons_iff.mp opens with ⟨backslash, _⟩ | later
      · exact absurd (backslash ▸ List.mem_cons_self) plain
      · exact ih (fun member => plain (List.mem_cons_of_mem c member)) later

theorem OpensPlaceholder.of_append_right {text back : List Char} (plain : '(' ∉ back)
    (opens : OpensPlaceholder (text ++ back)) : OpensPlaceholder text := by
  induction text with
  | nil => exact absurd (opens.subset (by simp)) plain
  | cons c text ih =>
      rcases opensPlaceholder_cons_iff.mp opens with ⟨backslash, parenthesis⟩ | later
      · refine opensPlaceholder_cons_iff.mpr (Or.inl ⟨backslash, ?_⟩)
        cases text with
        | nil => exact absurd (List.mem_of_head? parenthesis) plain
        | cons d text => exact parenthesis
      · exact opensPlaceholder_cons_iff.mpr (Or.inr (ih later))

/-- No opener begins or ends with white space, so trimming keeps all of them. -/
theorem opensPlaceholder_strip {text : List Char} :
    OpensPlaceholder (Text.strip text) ↔ OpensPlaceholder text := by
  obtain ⟨front, back, cut, blankFront, blankBack⟩ := Text.strip_append text
  constructor
  · intro opens
    rw [cut]
    exact opens.trans (List.infix_append' _ _ _)
  · intro opens
    rw [cut] at opens
    have noBackslash : '\\' ∉ front := fun member => absurd (blankFront _ member) (by decide)
    have noParenthesis : '(' ∉ back := fun member => absurd (blankBack _ member) (by decide)
    exact (opens.of_append_left noBackslash).of_append_right noParenthesis

theorem Template.IsWritten.opens {template : Template} {name : String}
    (written : template.IsWritten name) : OpensPlaceholder name.toList := by
  obtain ⟨inside, first, -⟩ := written
  refine ⟨template.lead.toList, inside.toList ++ ')' :: template.trail.toList, ?_⟩
  simp [first.joined]

/-- What a literal turns out to be. -/
inductive LiteralKind where
  | blank
  | plain
  | templated
  | malformed
deriving DecidableEq

namespace Literal

/-- The literal is blank, or a plain name, or written as a template, or it opens a placeholder that
cannot be parsed. -/
def IsOfKind (literal : Literal) : LiteralKind → Prop
  | .blank => Text.strip literal.text.toList = []
  | .plain => Text.strip literal.text.toList ≠ [] ∧ ¬ OpensPlaceholder literal.text.toList
  | .templated => ∃ template : Template, template.IsWritten literal.text
  | .malformed =>
      OpensPlaceholder literal.text.toList ∧ Template.ofName? literal.text = none

/-- The kind of a literal, found by parsing it. -/
def kind (literal : Literal) : LiteralKind :=
  if Text.strip literal.text.toList = [] then .blank
  else if ¬ OpensPlaceholder literal.text.toList then .plain
  else if Template.ofName? literal.text = none then .malformed
  else .templated

theorem isOfKind_iff {literal : Literal} {kind : LiteralKind} :
    literal.IsOfKind kind ↔ literal.kind = kind := by
  have visible : OpensPlaceholder literal.text.toList → Text.strip literal.text.toList ≠ [] := by
    intro opens blank
    have kept := opensPlaceholder_strip.mpr opens
    rw [blank] at kept
    exact not_opensPlaceholder_nil kept
  have parsed : (∃ template : Template, template.IsWritten literal.text) ↔
      Template.ofName? literal.text ≠ none := by
    simp only [Option.ne_none_iff_exists', Template.ofName?_eq_some_iff]
  have opened : Template.ofName? literal.text ≠ none → OpensPlaceholder literal.text.toList := by
    intro some
    obtain ⟨template, written⟩ := parsed.mpr some
    exact written.opens
  unfold Literal.kind
  cases kind <;> grind [IsOfKind]

instance (literal : Literal) (kind : LiteralKind) : Decidable (literal.IsOfKind kind) :=
  decidable_of_iff _ isOfKind_iff.symm

end Literal

/-- The reference gives the trimmed literal, and where it was found. -/
structure Reference.IsOf (reference : Reference) (file : String) (literal : Literal) : Prop where
  name : reference.name = String.ofList (Text.strip literal.text.toList)
  file : reference.file = file
  line : reference.line = literal.line
  rule : reference.rule = literal.rule

/-- The template is the one as which the literal is written, with the place where it was found. -/
structure TemplateUse.IsOf (use : TemplateUse) (file : String) (literal : Literal) : Prop where
  written : use.template.IsWritten literal.text
  file : use.file = file
  line : use.line = literal.line

theorem forall₂_filter_filterMap {keep : α → Prop} [DecidablePred keep] {make : α → Option β}
    {related : α → β → Prop} (dropped : ∀ item, ¬ keep item → make item = none)
    (made : ∀ item, keep item → ∃ result, make item = some result ∧ related item result)
    (items : List α) : List.Forall₂ related (items.filter keep) (items.filterMap make) := by
  induction items with
  | nil => exact .nil
  | cons item items ih =>
      by_cases kept : keep item
      · obtain ⟨result, made, holds⟩ := made item kept
        rw [List.filter_cons_of_pos (by simpa using kept), List.filterMap_cons_some made]
        exact .cons holds ih
      · rw [List.filter_cons_of_neg (by simpa using kept),
          List.filterMap_cons_none (dropped item kept)]
        exact ih

/-- A literal makes a reference just if it is plain. -/
theorem Reference.ofLiteral?_eq (file : String) (literal : Literal) :
    ofLiteral? file literal =
      if literal.IsOfKind .plain then
        some ⟨String.ofList (Text.strip literal.text.toList), file, literal.line, literal.rule⟩
      else none := by
  have blank : (String.ofList (Text.strip literal.text.toList)).isEmpty = true ↔
      Text.strip literal.text.toList = [] := by
    rw [String.isEmpty_iff, String.ofList_eq_empty_iff]
  have opened : hasPlaceholder (String.ofList (Text.strip literal.text.toList)) = true ↔
      OpensPlaceholder literal.text.toList := by
    rw [hasPlaceholder, String.toList_ofList, opensPlaceholder_iff, opensPlaceholder_strip]
  simp only [ofLiteral?, Bool.or_eq_true, blank, opened, Literal.IsOfKind, ← not_or, ite_not]

theorem references_of_literals (source : SourceFile) :
    List.Forall₂ (fun literal reference => Reference.IsOf reference source.path literal)
      ((Literal.ofSource source).filter (·.IsOfKind .plain)) (Reference.ofSource source) := by
  refine forall₂_filter_filterMap (fun literal other => ?_) (fun literal plain => ?_) _
  · rw [Reference.ofLiteral?_eq, if_neg other]
  · rw [Reference.ofLiteral?_eq, if_pos plain]
    exact ⟨_, rfl, rfl, rfl, rfl, rfl⟩

theorem templates_of_literals (source : SourceFile) :
    List.Forall₂ (fun literal use => TemplateUse.IsOf use source.path literal)
      ((Literal.ofSource source).filter (·.IsOfKind .templated)) (TemplateUse.ofSource source) := by
  refine forall₂_filter_filterMap (fun literal other => ?_) (fun literal templated => ?_) _
  · rw [TemplateUse.ofLiteral?, Option.map_eq_none_iff, Option.eq_none_iff_forall_ne_some]
    exact fun template parsed => other ⟨template, Template.ofName?_eq_some_iff.mp parsed⟩
  · obtain ⟨template, written⟩ := templated
    rw [TemplateUse.ofLiteral?, Template.ofName?_eq_some_iff.mpr written]
    exact ⟨_, rfl, written, rfl, rfl⟩

/-- Each literal of a source is of one kind.  The references are the plain ones, trimmed, and the
templates are the templated ones, both in the order of the literals; the others are dropped. -/
theorem literals_accounted (source : SourceFile) :
    (∀ literal ∈ Literal.ofSource source, ∃! kind, literal.IsOfKind kind) ∧
      List.Forall₂ (fun literal reference => Reference.IsOf reference source.path literal)
        ((Literal.ofSource source).filter (·.IsOfKind .plain)) (SourceScan.of source).references ∧
      List.Forall₂ (fun literal use => TemplateUse.IsOf use source.path literal)
        ((Literal.ofSource source).filter (·.IsOfKind .templated))
        (SourceScan.of source).templates ∧
      ∀ reference ∈ (SourceScan.of source).references,
        ¬ OpensPlaceholder reference.name.toList := by
  refine ⟨fun literal _ => ?_, references_of_literals source, templates_of_literals source, ?_⟩
  · exact ⟨literal.kind, Literal.isOfKind_iff.mpr rfl,
      fun kind isOfKind => (Literal.isOfKind_iff.mp isOfKind).symm⟩
  · intro reference member
    obtain ⟨literal, _, made⟩ := List.mem_filterMap.mp member
    rw [Reference.ofLiteral?_eq] at made
    split at made
    · rename_i plain
      cases made
      rw [String.toList_ofList, opensPlaceholder_strip]
      exact plain.2
    · cases made

/-- A source with one literal of each kind. -/
def skySource : SourceFile where
  path := "Sky.xib"
  category := .interfaceBuilder
  text := "image=\" \" image=\" logo \" image=\"sky_\\(mode)\" image=\"sun_\\(mode\""

theorem skySource_literals :
    Literal.ofSource skySource =
      [⟨"image-attr", " ", 1⟩, ⟨"image-attr", " logo ", 1⟩,
        ⟨"image-attr", "sky_\\(mode)", 1⟩, ⟨"image-attr", "sun_\\(mode", 1⟩] := by
  decide +kernel

theorem skySource_accounted :
    ⟨"image-attr", "sun_\\(mode", 1⟩ ∈ Literal.ofSource skySource ∧
      (∃! kind, Literal.IsOfKind ⟨"image-attr", "sun_\\(mode", 1⟩ kind) ∧
      ⟨"logo", "Sky.xib", 1, "image-attr"⟩ ∈ (SourceScan.of skySource).references ∧
      ¬ OpensPlaceholder "logo".toList ∧
      (Literal.ofSource skySource).map Literal.kind = [.blank, .plain, .templated, .malformed] := by
  have literal : ⟨"image-attr", "sun_\\(mode", 1⟩ ∈ Literal.ofSource skySource := by
    simp [skySource_literals]
  have reference :
      ⟨"logo", "Sky.xib", 1, "image-attr"⟩ ∈ (SourceScan.of skySource).references := by
    rw [SourceScan.of, skySource_literals]
    decide
  obtain ⟨accounted, -, -, unopened⟩ := literals_accounted skySource
  refine ⟨literal, accounted _ literal, reference, unopened _ reference, ?_⟩
  rw [skySource_literals]
  decide

end AssetAudit
