import AssetAudit.Proofs.Placeholder.Parts

namespace AssetAudit

/-! The grammar of templated names.  A name has parts around a placeholder just if it is written as
the grammar says, and there is one way only to read it so. -/

/-- The text opens a placeholder somewhere. -/
def OpensPlaceholder (text : List Char) : Prop := ['\\', '('] <:+: text

theorem not_opensPlaceholder_nil : ¬ OpensPlaceholder [] := by simp [OpensPlaceholder]

theorem opensPlaceholder_cons_iff {c : Char} {text : List Char} :
    OpensPlaceholder (c :: text) ↔
      c = '\\' ∧ text.head? = some '(' ∨ OpensPlaceholder text := by
  rw [OpensPlaceholder, List.infix_cons_iff, List.cons_prefix_cons,
    List.singleton_prefix_iff_head?_eq_some, eq_comm, OpensPlaceholder]

theorem opensPlaceholder_iff {text : List Char} :
    opensPlaceholder text = true ↔ OpensPlaceholder text := by
  fun_induction opensPlaceholder text with
  | case1 rest => simp [opensPlaceholder_cons_iff]
  | case2 c rest other ih =>
      rw [ih, opensPlaceholder_cons_iff, or_iff_right]
      intro opener
      obtain ⟨backslash, parenthesis⟩ := opener
      obtain ⟨tail, rfl⟩ := List.head?_eq_some_iff.mp parenthesis
      exact other tail backslash rfl
  | case3 => simp [not_opensPlaceholder_nil]

instance (text : List Char) : Decidable (OpensPlaceholder text) :=
  decidable_of_iff _ opensPlaceholder_iff

namespace Placeholder

/-- A name is a text without openers, a placeholder and a rest, where the placeholder holds all
parentheses that it opens. -/
structure IsFirstIn (name lead inside trail : String) : Prop where
  joined : name = lead ++ "\\(" ++ inside ++ ")" ++ trail
  unopened : ¬ OpensPlaceholder lead.toList
  closed : ClosesParentheses inside.toList

theorem cutAtOpener?_eq_some_iff {text lead inside : List Char} :
    cutAtOpener? text = some (lead, inside) ↔
      text = lead ++ '\\' :: '(' :: inside ∧ ¬ OpensPlaceholder lead := by
  fun_induction cutAtOpener? text generalizing lead with
  | case1 rest =>
      cases lead with
      | nil => simp [not_opensPlaceholder_nil]
      | cons c lead =>
          simp only [Option.some.injEq, Prod.mk.injEq, List.nil_eq, reduceCtorEq, false_and,
            false_iff, not_and, not_not, List.cons_append, List.cons.injEq]
          intro same
          obtain ⟨backslash, parenthesis⟩ := same
          refine opensPlaceholder_cons_iff.mpr (Or.inl ⟨backslash.symm, ?_⟩)
          cases lead with
          | nil => simp at parenthesis
          | cons d lead => simpa using (List.cons.inj parenthesis).1.symm
  | case2 c rest other ih =>
      rw [Option.map_eq_some_iff]
      constructor
      · intro found
        obtain ⟨⟨later, _⟩, found, same⟩ := found
        cases same
        obtain ⟨rfl, unopened⟩ := ih.mp found
        refine ⟨rfl, fun opens => ?_⟩
        rcases opensPlaceholder_cons_iff.mp opens with ⟨backslash, parenthesis⟩ | later
        · obtain ⟨tail, rfl⟩ := List.head?_eq_some_iff.mp parenthesis
          exact other _ backslash rfl
        · exact unopened later
      · intro written
        obtain ⟨joined, unopened⟩ := written
        cases lead with
        | nil =>
            obtain ⟨rfl, rfl⟩ := List.cons.inj joined
            exact (other _ rfl rfl).elim
        | cons d lead =>
            obtain ⟨rfl, rfl⟩ := List.cons.inj joined
            have later : ¬ OpensPlaceholder lead :=
              fun opens => unopened (opensPlaceholder_cons_iff.mpr (Or.inr opens))
            exact ⟨(lead, inside), ih.mpr ⟨rfl, later⟩, rfl⟩
  | case3 => simp

theorem forall_prefix_cons {holds : List Char → Prop} {c : Char} {text : List Char} :
    (∀ before, before <+: c :: text → holds before) ↔
      holds [] ∧ ∀ before, before <+: text → holds (c :: before) := by
  constructor
  · intro all
    exact ⟨all [] List.nil_prefix,
      fun before start => all _ (List.cons_prefix_cons.mpr ⟨rfl, start⟩)⟩
  · intro each before start
    rcases List.prefix_cons_iff.mp start with rfl | ⟨tail, rfl, within⟩
    · exact each.1
    · exact each.2 tail within

/-- What is cut off closes all that was open and all that it opens, and nothing too early. -/
theorem cutAtClosing?_sound {depth : Nat} {text inside trail : List Char}
    (found : cutAtClosing? depth text = some (inside, trail)) :
    text = inside ++ ')' :: trail ∧ depth + inside.count '(' = inside.count ')' ∧
      ∀ before, before <+: inside → before.count ')' ≤ depth + before.count '(' := by
  fun_induction cutAtClosing? depth text generalizing inside with
  | case1 => cases found
  | case2 rest =>
      cases found
      simp
  | case3 depth rest ih =>
      obtain ⟨⟨later, _⟩, found, same⟩ := Option.map_eq_some_iff.mp found
      cases same
      obtain ⟨rfl, balanced, bounded⟩ := ih found
      refine ⟨rfl, by simp; omega, forall_prefix_cons.mpr ⟨by simp, fun before start => ?_⟩⟩
      have bound := bounded before start
      simp
      omega
  | case4 depth rest ih =>
      obtain ⟨⟨later, _⟩, found, same⟩ := Option.map_eq_some_iff.mp found
      cases same
      obtain ⟨rfl, balanced, bounded⟩ := ih found
      refine ⟨rfl, by simp; omega, forall_prefix_cons.mpr ⟨by simp, fun before start => ?_⟩⟩
      have bound := bounded before start
      simp
      omega
  | case5 depth c rest groundOpen innerOpen opening ih =>
      obtain ⟨⟨later, _⟩, found, same⟩ := Option.map_eq_some_iff.mp found
      cases same
      obtain ⟨rfl, balanced, bounded⟩ := ih found
      have notClosing : c ≠ ')' := by
        intro closing
        cases depth with
        | zero => exact groundOpen rfl closing
        | succ depth => exact innerOpen depth rfl closing
      have closes (text : List Char) : (c :: text).count ')' = text.count ')' :=
        List.count_cons_of_ne notClosing
      have opens (text : List Char) : (c :: text).count '(' = text.count '(' :=
        List.count_cons_of_ne opening
      refine ⟨rfl, by rw [opens, closes, balanced], forall_prefix_cons.mpr ⟨by simp, ?_⟩⟩
      intro before start
      rw [opens, closes]
      exact bounded before start

theorem cutAtClosing?_eq_some_iff {text inside trail : List Char} :
    cutAtClosing? 0 text = some (inside, trail) ↔
      text = inside ++ ')' :: trail ∧ ClosesParentheses inside := by
  constructor
  · intro found
    obtain ⟨joined, balanced, bounded⟩ := cutAtClosing?_sound found
    simp only [Nat.zero_add] at balanced bounded
    exact ⟨joined, balanced, bounded⟩
  · intro written
    obtain ⟨rfl, closed⟩ := written
    exact cutAtClosing?_closed closed trail

variable {name lead inside trail : String}

/-- The grammar in terms of the two cuts. -/
theorem isFirstIn_iff :
    IsFirstIn name lead inside trail ↔
      cutAtOpener? name.toList = some (lead.toList, inside.toList ++ ')' :: trail.toList) ∧
        cutAtClosing? 0 (inside.toList ++ ')' :: trail.toList) =
          some (inside.toList, trail.toList) := by
  rw [cutAtOpener?_eq_some_iff, cutAtClosing?_eq_some_iff]
  have characters : (lead ++ "\\(" ++ inside ++ ")" ++ trail).toList =
      lead.toList ++ '\\' :: '(' :: (inside.toList ++ ')' :: trail.toList) := by
    simp
  constructor
  · intro first
    exact ⟨⟨by rw [first.joined, characters], first.unopened⟩, rfl, first.closed⟩
  · intro cuts
    obtain ⟨⟨joined, unopened⟩, -, closed⟩ := cuts
    exact ⟨String.toList_inj.mp (by rw [joined, characters]), unopened, closed⟩

theorem IsFirstIn.unique {otherLead otherInside otherTrail : String}
    (first : IsFirstIn name lead inside trail)
    (other : IsFirstIn name otherLead otherInside otherTrail) :
    lead = otherLead ∧ inside = otherInside ∧ trail = otherTrail := by
  obtain ⟨opener, closing⟩ := isFirstIn_iff.mp first
  obtain ⟨otherOpener, otherClosing⟩ := isFirstIn_iff.mp other
  obtain ⟨sameLead, sameRest⟩ := Prod.mk.inj (Option.some.inj (opener.symm.trans otherOpener))
  rw [sameRest, otherClosing] at closing
  obtain ⟨sameInside, sameTrail⟩ := Prod.mk.inj (Option.some.inj closing)
  exact ⟨String.toList_inj.mp sameLead, String.toList_inj.mp sameInside.symm,
    String.toList_inj.mp sameTrail.symm⟩

end Placeholder

namespace Template

open Placeholder (IsFirstIn)

/-- The name is written as this template, whose placeholder is an expression that is not blank,
with any white space around it. -/
def IsWritten (template : Template) (name : String) : Prop :=
  ∃ inside, IsFirstIn name template.lead inside template.trail ∧
    template.placeholder = String.ofList (Text.strip inside.toList) ∧ template.placeholder ≠ ""

theorem ofName?_eq_some_iff {name : String} {template : Template} :
    ofName? name = some template ↔ template.IsWritten name := by
  obtain ⟨lead, placeholder, trail⟩ := template
  constructor
  · intro parsed
    unfold ofName? at parsed
    split at parsed
    · cases parsed
    · rename_i leadChars rest opener
      split at parsed
      · cases parsed
      · rename_i inside trailChars closing
        dsimp only at parsed
        split at parsed
        · cases parsed
        · rename_i visible
          cases parsed
          obtain ⟨rfl, -⟩ := Placeholder.cutAtClosing?_eq_some_iff.mp closing
          refine ⟨String.ofList inside, Placeholder.isFirstIn_iff.mpr ?_, ?_, ?_⟩
          · simp only [String.toList_ofList]
            exact ⟨opener, closing⟩
          · rw [String.toList_ofList]
          · simpa using visible
  · intro written
    obtain ⟨inside, first, expression, visible⟩ := written
    obtain ⟨opener, closing⟩ := Placeholder.isFirstIn_iff.mp first
    dsimp only at opener closing expression visible
    subst expression
    have shown : Text.strip inside.toList ≠ [] := by
      simpa using visible
    simp [ofName?, opener, closing, shown]

/-- Parsing follows the grammar: the template of a name is the one as which it is written, and a
name has none if it is not written as a template.  No name can be read in two ways. -/
theorem ofName?_parses_exactly (name : String) :
    (∀ template, ofName? name = some template ↔ template.IsWritten name) ∧
      (ofName? name = none ↔ ∀ template : Template, ¬ template.IsWritten name) ∧
      ∀ lead inside trail, IsFirstIn name lead inside trail →
        ∀ otherLead otherInside otherTrail, IsFirstIn name otherLead otherInside otherTrail →
          lead = otherLead ∧ inside = otherInside ∧ trail = otherTrail := by
  refine ⟨fun template => ofName?_eq_some_iff, ?_, ?_⟩
  · rw [Option.eq_none_iff_forall_ne_some]
    exact forall_congr' fun template => not_congr ofName?_eq_some_iff
  · intro lead inside trail first otherLead otherInside otherTrail other
    exact first.unique other

/-- A placeholder behind a backslash, with a call in it and an unbalanced rest behind it. -/
theorem ofName?_parses_call :
    IsFirstIn "dir\\\\( size(of: x) )_\\(y" "dir\\" " size(of: x) " "_\\(y" ∧
      ofName? "dir\\\\( size(of: x) )_\\(y" = some ⟨"dir\\", "size(of: x)", "_\\(y"⟩ ∧
      ∀ lead inside trail, IsFirstIn "dir\\\\( size(of: x) )_\\(y" lead inside trail →
        lead = "dir\\" ∧ inside = " size(of: x) " ∧ trail = "_\\(y" := by
  have first : IsFirstIn "dir\\\\( size(of: x) )_\\(y" "dir\\" " size(of: x) " "_\\(y" :=
    ⟨by decide, by decide, by decide⟩
  obtain ⟨parses, -, unique⟩ := ofName?_parses_exactly "dir\\\\( size(of: x) )_\\(y"
  refine ⟨first, (parses _).mpr ⟨_, first, by decide, by decide⟩, ?_⟩
  intro lead inside trail other
  exact unique lead inside trail other _ _ _ first

end Template

end AssetAudit
