import AssetAudit.Proofs.Usage.Partition
import Mathlib.Data.List.Infix

namespace AssetAudit

/-! The forms of a name for the three scales stand for each other.  Whichever of them the sources
refer to, the images of all three are used. -/

def scaleMark (digit : Char) : List Char := ['@', digit, 'x']

section Marks

variable {digit other : Char} {name rest : List Char}

theorem withoutScaleMark_cons {c : Char} (unmarked : ¬ scaleMark digit <+: c :: rest) :
    withoutScaleMark digit (c :: rest) = c :: withoutScaleMark digit rest := by
  rw [withoutScaleMark.eq_def]
  split
  · rename_i next more same
    obtain ⟨rfl, rfl⟩ := List.cons.inj same
    have other : next ≠ digit := by
      intro same
      exact unmarked ⟨more, by simp [scaleMark, same]⟩
    rw [if_neg other]
  · rename_i same
    obtain ⟨rfl, rfl⟩ := List.cons.inj same
    rfl
  · contradiction

/-- A mark that reaches over the end of a name has its digit or its letter right behind the end. -/
theorem not_mark_across {c : Char} (absent : ¬ scaleMark digit <:+: c :: name)
    (apart : ∀ d ∈ rest.head?, d ≠ digit ∧ d ≠ 'x') :
    ¬ scaleMark digit <+: c :: (name ++ rest) := by
  intro marked
  obtain ⟨more, behind⟩ := marked
  simp only [scaleMark, List.cons_append, List.nil_append, List.cons.injEq] at behind
  obtain ⟨rfl, behind⟩ := behind
  match name with
  | [] =>
      obtain rfl : digit :: 'x' :: more = rest := behind
      exact (apart digit rfl).1 rfl
  | [_] =>
      obtain rfl : 'x' :: more = rest := (List.cons.inj behind).2
      exact (apart 'x' rfl).2 rfl
  | _ :: _ :: others =>
      simp only [List.cons_append, List.cons.injEq] at behind
      obtain ⟨rfl, rfl, -⟩ := behind
      exact absent (List.prefix_append (scaleMark digit) others).isInfix

theorem withoutScaleMark_append (absent : ¬ scaleMark digit <:+: name)
    (apart : ∀ c ∈ rest.head?, c ≠ digit ∧ c ≠ 'x') :
    withoutScaleMark digit (name ++ rest) = name ++ withoutScaleMark digit rest := by
  induction name with
  | nil => rfl
  | cons c name ih =>
      have later : ¬ scaleMark digit <:+: name := fun found => absent (List.infix_cons found)
      rw [List.cons_append, withoutScaleMark_cons (not_mark_across absent apart), ih later]
      rfl

theorem withoutScaleMark_plain (absent : ¬ scaleMark digit <:+: name) :
    withoutScaleMark digit name = name := by
  have whole : withoutScaleMark digit (name ++ []) = name ++ withoutScaleMark digit [] :=
    withoutScaleMark_append absent (by simp)
  simpa [withoutScaleMark] using whole

theorem withoutScaleMark_marked (absent : ¬ scaleMark digit <:+: name) (isDigit : digit ≠ '@') :
    withoutScaleMark digit (name ++ scaleMark digit) = name := by
  rw [withoutScaleMark_append absent (by simp [scaleMark, Ne.symm isDigit])]
  simp [scaleMark, withoutScaleMark]

theorem withoutScaleMark_otherMark (absent : ¬ scaleMark digit <:+: name) (isDigit : digit ≠ '@')
    (different : other ≠ digit) :
    withoutScaleMark digit (name ++ scaleMark other) = name ++ scaleMark other := by
  rw [withoutScaleMark_append absent (by simp [scaleMark, Ne.symm isDigit])]
  simp [scaleMark, withoutScaleMark, different]

end Marks

/-- A name as it stands in sources for each of the three scales. -/
def scaleForms (base : String) : List String := [base, base ++ "@2x", base ++ "@3x"]

/-- The name bears no mark of a scale. -/
structure IsScaleFree (base : String) : Prop where
  noDouble : ¬ "@2x".toList <:+: base.toList
  noTriple : ¬ "@3x".toList <:+: base.toList

section Forms

variable {base form : String}

/-- Whatever pieces of a mark the name ends in, only the mark behind it is taken away. -/
theorem scaleFreeName_form (free : IsScaleFree base) (isForm : form ∈ scaleForms base) :
    scaleFreeName form.toList = base.toList := by
  have noDouble : ¬ scaleMark '2' <:+: base.toList := free.noDouble
  have noTriple : ¬ scaleMark '3' <:+: base.toList := free.noTriple
  have plain := withoutScaleMark_plain noTriple
  rw [scaleForms, List.mem_cons, List.mem_pair] at isForm
  rcases isForm with rfl | rfl | rfl
  · rw [scaleFreeName, withoutScaleMark_plain noDouble, plain]
  · have double : (base ++ "@2x").toList = base.toList ++ scaleMark '2' := String.toList_append
    rw [scaleFreeName, double, withoutScaleMark_marked noDouble (by decide), plain]
  · have triple : (base ++ "@3x").toList = base.toList ++ scaleMark '3' := String.toList_append
    rw [scaleFreeName, triple, withoutScaleMark_otherMark noDouble (by decide) (by decide),
      withoutScaleMark_marked noTriple (by decide)]

variable {asset : Asset}

/-- An image that has one form of a name goes by all of them, in small letters too. -/
theorem Asset.forms_usageNames (free : IsScaleFree base) (isForm : asset.name ∈ scaleForms base) :
    ∀ form ∈ scaleForms base, form ∈ asset.usageNames ∧
      String.ofList (Text.lower form.toList) ∈ asset.usageNames := by
  intro form other
  have bare := scaleFreeName_form free isForm
  refine Asset.mem_usageNames_of_plain ?_
  rw [scaleForms, List.mem_cons, List.mem_pair] at other
  rcases other with rfl | rfl | rfl <;> simp [Asset.plainNames, bare]

end Forms

/-- Where the sources refer to one form of a name, or to one in small letters, no image with any
form of the name is unused. -/
theorem scale_forms_used_together {base : String} (free : IsScaleFree base)
    {usedNames : List String}
    (named : ∃ form ∈ scaleForms base,
      form ∈ usedNames ∨ String.ofList (Text.lower form.toList) ∈ usedNames)
    (assets : List Asset) (sources : List SourceFile) (dynamicLookups : List DynamicLookup) :
    ∀ asset ∈ (Usage.of assets usedNames sources dynamicLookups).unused,
      asset.name ∉ scaleForms base := by
  intro asset unused isForm
  obtain ⟨form, other, used⟩ := named
  have unnamed := (Usage.mem_unused.mp unused).2.unnamed
  obtain ⟨plain, small⟩ := Asset.forms_usageNames free isForm form other
  rcases used with asWritten | inSmallLetters
  · exact unnamed form plain asWritten
  · exact unnamed _ small inSmallLetters

/-- Images of one street sign, in an image set and beside it.  The name ends in a piece of a mark,
and its last capital sigma stands in front of the mark. -/
def streetImages : List Asset :=
  [⟨"ΟΔΟΣ@2", "Signs/ΟΔΟΣ@2.png", 1, .png, "png", some 1, none, none, none, none⟩,
    ⟨"ΟΔΟΣ@2@2x", "A.xcassets/Sign.imageset/ΟΔΟΣ.png", 1, .catalogVariant, "png", some 2, none,
      none, none, some "A.xcassets/Sign.imageset"⟩,
    ⟨"ΟΔΟΣ@2@3x", "ΟΔΟΣ@2@3x.png", 1, .png, "png", some 3, none, none, none, none⟩]

theorem streetImages_used : (Usage.of streetImages ["οδος@2@3x"] [] []).unused = [] := by
  have free : IsScaleFree "ΟΔΟΣ@2" := by
    constructor <;> decide
  have named : ∃ form ∈ scaleForms "ΟΔΟΣ@2",
      form ∈ ["οδος@2@3x"] ∨ String.ofList (Text.lower form.toList) ∈ ["οδος@2@3x"] :=
    ⟨"ΟΔΟΣ@2@3x", by decide, Or.inr (by decide +kernel)⟩
  refine List.eq_nil_iff_forall_not_mem.mpr fun asset unused => ?_
  have forms : ∀ asset ∈ streetImages, asset.name ∈ scaleForms "ΟΔΟΣ@2" := by
    decide
  exact scale_forms_used_together free named _ _ _ asset unused
    (forms asset (Usage.mem_of_unused unused))

end AssetAudit
