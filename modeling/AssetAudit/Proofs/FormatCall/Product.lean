import AssetAudit.Proofs.FormatCall.Arguments
import AssetAudit.Proofs.FormatCall.Specifiers
import AssetAudit.Proofs.Placeholder.Parts
import AssetAudit.Proofs.Resolution.Chains
import Mathlib.Data.List.Forall2

namespace AssetAudit.FormatCall

/-! A format call with several conversions stands for all combinations of the values of its
arguments. -/

/-- A text in which no conversion and no placeholder begins. -/
def IsPlain (text : String) : Prop := '\\' ∉ text.toList ∧ '%' ∉ text.toList

instance : DecidablePred IsPlain := fun text =>
  inferInstanceAs (Decidable ('\\' ∉ text.toList ∧ '%' ∉ text.toList))

/-- A conversion of a format string with its argument and the text behind it. -/
structure FormatPart where
  conversion : String
  argument : String
  text : String
  recognised : specifier.Matches conversion.toList
  isArgument : IsArgument argument.toList
  closed : ClosesParentheses argument.toList
  plain : IsPlain text

namespace FormatPart

/-- The values that the table has for the argument. -/
def choices (table : BindingTable) (part : FormatPart) : List String :=
  (table.valuesOf? part.argument).getD []

/-- The table has values for the argument, and no placeholder begins in any of them. -/
structure IsBound (table : BindingTable) (part : FormatPart) : Prop where
  found : part.choices table ≠ []
  plain : ∀ value ∈ part.choices table, '\\' ∉ value.toList

instance (table : BindingTable) (part : FormatPart) : Decidable (part.IsBound table) :=
  decidable_of_iff
    (part.choices table ≠ [] ∧ ∀ value ∈ part.choices table, '\\' ∉ value.toList)
    ⟨fun ⟨found, plain⟩ => ⟨found, plain⟩, fun bound => ⟨bound.found, bound.plain⟩⟩

/-- The format string of the parts behind a first text. -/
def formatString (first : String) : List FormatPart → String
  | [] => first
  | part :: rest => first ++ part.conversion ++ formatString part.text rest

def argumentList (parts : List FormatPart) : String :=
  ", ".intercalate (parts.map (·.argument))

/-- The name of the parts with values in the place of the first arguments.  The other arguments
are placeholders. -/
def fill (first : String) : List FormatPart → List String → String
  | [], _ => first
  | part :: rest, [] => first ++ "\\(" ++ part.argument ++ ")" ++ fill part.text rest []
  | part :: rest, value :: values => first ++ value ++ fill part.text rest values

theorem fill_append (before first : String) (parts : List FormatPart) (values : List String) :
    before ++ fill first parts values = fill (before ++ first) parts values := by
  cases parts with
  | nil => rfl
  | cons part rest => cases values <;> simp [fill, String.append_assoc]

theorem cut_formatString (parts : List FormatPart) {first : String} (plain : IsPlain first)
    (before : List Char) :
    specifier.cutFrom 0 before [] (formatString first parts).toList =
      first.toList :: parts.map (·.text.toList) := by
  induction parts generalizing first before with
  | nil => simpa [formatString] using cut_plain plain.2 before []
  | cons part rest ih =>
      have cut := cut_specifier plain.2 part.recognised before []
        (formatString part.text rest).toList
      rw [ih part.plain] at cut
      simpa [formatString] using cut

theorem interleave_arguments (parts : List FormatPart) (first : String) :
    String.ofList (interleave (first.toList :: parts.map (·.text.toList))
      (parts.map (·.argument))) = fill first parts [] := by
  induction parts generalizing first with
  | nil => simp [interleave, fill]
  | cons part rest ih =>
      have later := congrArg String.toList (ih part.text)
      rw [String.toList_ofList] at later
      apply String.toList_injective
      simp [interleave, fill, later]

/-- A format call with as many arguments as conversions has a templated name. -/
theorem template?_formatString {first : String} (plain : IsPlain first) (part : FormatPart)
    (rest : List FormatPart) :
    template? (formatString first (part :: rest)) (argumentList (part :: rest)) =
      some (fill first (part :: rest) []) := by
  have texts : specifier.cut (formatString first (part :: rest)).toList =
      first.toList :: (part :: rest).map (·.text.toList) := cut_formatString (part :: rest) plain []
  have arguments : splitArguments (argumentList (part :: rest)) =
      (part :: rest).map (·.argument) := by
    apply splitArguments_intercalate
    intro argument member
    obtain ⟨owner, _, rfl⟩ := List.mem_map.mp member
    exact owner.isArgument
  have enough : ¬ ((first.toList :: (part :: rest).map (·.text.toList)).length ≤ 1 ||
      (first.toList :: (part :: rest).map (·.text.toList)).length - 1 >
        ((part :: rest).map (·.argument)).length) = true := by
    simp
  unfold template?
  rw [texts, arguments, if_neg enough, interleave_arguments]

theorem ofName?_fill {first : String} (plain : '\\' ∉ first.toList) (part : FormatPart)
    (rest : List FormatPart) :
    Template.ofName? (fill first (part :: rest) []) =
      some ⟨first, part.argument, fill part.text rest []⟩ := by
  have nonempty : part.argument ≠ "" := by
    intro empty
    exact part.isArgument.nonempty (by rw [empty]; rfl)
  exact Template.ofName?_placeholder plain nonempty part.isArgument.trimmed part.closed _

theorem hasPlaceholder_fill (first : String) (part : FormatPart) (rest : List FormatPart) :
    hasPlaceholder (fill first (part :: rest) []) = true := by
  have opened : fill first (part :: rest) [] =
      first ++ "\\(" ++ (part.argument ++ ")" ++ fill part.text rest []) := by
    simp [fill, String.append_assoc]
  rw [opened]
  exact hasPlaceholder_opened _ _

variable {table : BindingTable} {config : Config}

theorem values_placeholder {part : FormatPart} (bound : part.IsBound table)
    (lead trail : String) :
    (⟨lead, part.argument, trail⟩ : Template).values table config = part.choices table := by
  cases found : table.valuesOf? part.argument with
  | none => exact absurd (by rw [choices, found]; rfl) bound.found
  | some values => simp [Template.values, choices, found]

theorem fill_cons (first value : String) (part : FormatPart) (rest : List FormatPart)
    (values : List String) :
    fill first (part :: rest) (value :: values) =
      fill (first ++ value ++ part.text) rest values := by
  rw [fill, fill_append]

/-- What the first value leaves is a name of the other parts. -/
theorem render_fill (first value : String) (part : FormatPart) (rest : List FormatPart) :
    (⟨first, part.argument, fill part.text rest []⟩ : Template).render value =
      fill (first ++ value ++ part.text) rest [] := by
  rw [Template.render, fill_append]

theorem IsBound.plain_lead {part : FormatPart} (bound : part.IsBound table) {first value : String}
    (plainFirst : '\\' ∉ first.toList) (member : value ∈ part.choices table) :
    '\\' ∉ (first ++ value ++ part.text).toList := by
  simp only [String.toList_append, List.mem_append, not_or]
  exact ⟨⟨plainFirst, bound.plain value member⟩, part.plain.1⟩

/-- One value for each placeholder, in order, makes the name complete, and nothing else does. -/
theorem completeChain_iff {part : FormatPart} {rest : List FormatPart} {first : String}
    (plainFirst : '\\' ∉ first.toList) (bound : ∀ member ∈ part :: rest, member.IsBound table)
    {values : List String} {name : String} :
    SubstitutionChain table config ⟨first, part.argument, fill part.text rest []⟩ values name ∧
        hasPlaceholder name = false ↔
      List.Forall₂ (fun member value => value ∈ member.choices table) (part :: rest) values ∧
        name = fill first (part :: rest) values := by
  induction rest generalizing first part values with
  | nil =>
      cases values with
      | nil => simp [SubstitutionChain.not_nil]
      | cons value values =>
          have boundPart := bound part (by simp)
          have complete : value ∈ part.choices table →
              hasPlaceholder (fill (first ++ value ++ part.text) [] []) = false :=
            fun member => opensPlaceholder_plain (boundPart.plain_lead plainFirst member)
          rw [SubstitutionChain.cons_iff, values_placeholder boundPart, render_fill,
            List.forall₂_cons, List.forall₂_nil_left_iff, fill_cons]
          constructor
          · intro found
            obtain ⟨⟨member, ⟨rfl, rfl⟩ | ⟨_, templated, _⟩⟩, _⟩ := found
            · exact ⟨⟨member, rfl⟩, rfl⟩
            · rw [complete member] at templated
              cases templated
          · intro found
            obtain ⟨⟨member, rfl⟩, rfl⟩ := found
            exact ⟨⟨member, Or.inl ⟨rfl, rfl⟩⟩, complete member⟩
  | cons next rest ih =>
      cases values with
      | nil => simp [SubstitutionChain.not_nil]
      | cons value values =>
          have boundPart := bound part (by simp)
          have boundRest : ∀ member ∈ next :: rest, member.IsBound table :=
            fun member among => bound member (List.mem_cons_of_mem part among)
          rw [SubstitutionChain.cons_iff, values_placeholder boundPart, render_fill,
            List.forall₂_cons, fill_cons]
          constructor
          · intro found
            obtain ⟨⟨member, ⟨_, rfl⟩ | ⟨inner, _, parts, chain⟩⟩, complete⟩ := found
            · rw [hasPlaceholder_fill] at complete
              cases complete
            · rw [ofName?_fill (boundPart.plain_lead plainFirst member)] at parts
              obtain rfl := Option.some.inj parts
              obtain ⟨others, named⟩ :=
                (ih (boundPart.plain_lead plainFirst member) boundRest).mp ⟨chain, complete⟩
              exact ⟨⟨member, others⟩, named⟩
          · intro found
            obtain ⟨⟨member, others⟩, named⟩ := found
            obtain ⟨chain, complete⟩ :=
              (ih (boundPart.plain_lead plainFirst member) boundRest).mpr ⟨others, named⟩
            have parts := ofName?_fill (boundPart.plain_lead plainFirst member) next rest
            exact ⟨⟨member, Or.inr ⟨_, hasPlaceholder_fill _ _ _, parts, chain⟩⟩, complete⟩

/-- The names of a format call are the format strings with one value of each argument in the place
of its conversion, all combinations, unless there are more conversions than substitutions may be
made. -/
theorem formatCall_names_are_product (table : BindingTable) (config : Config)
    (positive : 1 ≤ config.maxExpansionDepth) (first : String) (plainFirst : IsPlain first)
    (part : FormatPart) (rest : List FormatPart)
    (bound : ∀ member ∈ part :: rest, member.IsBound table) :
    template? (formatString first (part :: rest)) (argumentList (part :: rest)) =
        some (fill first (part :: rest) []) ∧
      Template.ofName? (fill first (part :: rest) []) =
        some ⟨first, part.argument, fill part.text rest []⟩ ∧
      ((part :: rest).length ≤ config.maxExpansionDepth → ∀ name,
        name ∈ Template.names table config ⟨first, part.argument, fill part.text rest []⟩ ↔
          ∃ values, List.Forall₂ (fun member value => value ∈ member.choices table)
            (part :: rest) values ∧ name = fill first (part :: rest) values) ∧
      (config.maxExpansionDepth < (part :: rest).length →
        Template.names table config ⟨first, part.argument, fill part.text rest []⟩ = []) := by
  have depth : max 1 config.maxExpansionDepth = config.maxExpansionDepth :=
    Nat.max_eq_right positive
  have member_names : ∀ name,
      name ∈ Template.names table config ⟨first, part.argument, fill part.text rest []⟩ ↔
        ∃ values, (List.Forall₂ (fun member value => value ∈ member.choices table)
          (part :: rest) values ∧ name = fill first (part :: rest) values) ∧
          values.length ≤ config.maxExpansionDepth := by
    intro name
    rw [Template.mem_names, depth]
    constructor
    · intro found
      obtain ⟨values, chain, complete, within⟩ := found
      exact ⟨values, (completeChain_iff plainFirst.1 bound).mp ⟨chain, complete⟩, within⟩
    · intro found
      obtain ⟨values, filled, within⟩ := found
      obtain ⟨chain, complete⟩ := (completeChain_iff plainFirst.1 bound).mpr filled
      exact ⟨values, chain, complete, within⟩
  refine ⟨template?_formatString plainFirst part rest, ofName?_fill plainFirst.1 part rest, ?_, ?_⟩
  · intro within name
    rw [member_names]
    constructor
    · intro found
      obtain ⟨values, filled, _⟩ := found
      exact ⟨values, filled⟩
    · intro found
      obtain ⟨values, filled⟩ := found
      exact ⟨values, filled, filled.1.length_eq ▸ within⟩
  · intro beyond
    rw [List.eq_nil_iff_forall_not_mem]
    intro name found
    obtain ⟨values, filled, within⟩ := (member_names name).mp found
    have same := filled.1.length_eq
    omega

theorem formatCall_names_of_icon :
    "icon_dark_2" ∈ Template.names
      ⟨[⟨"kind", ["light", "dark"]⟩, ⟨"size(of: [1, 2])", ["1", "2"]⟩]⟩ {}
      ⟨"icon_", "style.kind", "_\\(size(of: [1, 2]))"⟩ := by
  let kind : FormatPart := ⟨"%@", "style.kind", "_", by decide, by decide, by decide, by decide⟩
  let size : FormatPart :=
    ⟨"%ld", "size(of: [1, 2])", "", by decide, by decide, by decide, by decide⟩
  have product := formatCall_names_are_product
    ⟨[⟨"kind", ["light", "dark"]⟩, ⟨"size(of: [1, 2])", ["1", "2"]⟩]⟩ {} (by decide)
    "icon_" (by decide) kind [size] (by decide)
  have chosen : List.Forall₂ (fun member value => value ∈ member.choices
      ⟨[⟨"kind", ["light", "dark"]⟩, ⟨"size(of: [1, 2])", ["1", "2"]⟩]⟩)
      [kind, size] ["dark", "2"] := .cons (by decide) (.cons (by decide) .nil)
  exact (product.2.2.1 (by decide) _).mpr ⟨["dark", "2"], chosen, by decide⟩

end FormatPart

end AssetAudit.FormatCall
