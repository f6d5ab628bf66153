import AssetAudit.Text.Search

namespace AssetAudit.Text

/-! Cutting at a separator undoes joining with it. -/

variable {sep : Char}

theorem pieces_ne_nil (text : List Char) : pieces sep text ≠ [] := by
  cases text with
  | nil => simp [pieces]
  | cons c rest =>
      unfold pieces
      split
      · simp
      · split <;> simp

theorem pieces_plain {text : List Char} (plain : sep ∉ text) : pieces sep text = [text] := by
  induction text with
  | nil => rfl
  | cons c rest ih =>
      have other : c ≠ sep := fun same => plain (by simp [same])
      rw [pieces, if_neg other, ih fun member => plain (List.mem_cons_of_mem c member)]

theorem not_mem_of_mem_pieces {text piece : List Char} (member : piece ∈ pieces sep text) :
    sep ∉ piece := by
  induction text generalizing piece with
  | nil =>
      rw [List.mem_singleton.mp member]
      exact List.not_mem_nil
  | cons c rest ih =>
      by_cases same : c = sep
      · rw [pieces, if_pos same] at member
        rcases List.mem_cons.mp member with rfl | later
        · exact List.not_mem_nil
        · exact ih later
      · rw [pieces, if_neg same] at member
        cases cut : pieces sep rest with
        | nil => exact absurd cut (pieces_ne_nil rest)
        | cons first others =>
            rw [cut] at member
            rcases List.mem_cons.mp member with rfl | later
            · have plain : sep ∉ first := ih (cut ▸ List.mem_cons_self)
              exact List.not_mem_cons_of_ne_of_not_mem (Ne.symm same) plain
            · exact ih (cut ▸ List.mem_cons_of_mem first later)

theorem pieces_append (text rest : List Char) :
    pieces sep (text ++ sep :: rest) = pieces sep text ++ pieces sep rest := by
  induction text with
  | nil => simp [pieces]
  | cons c text ih =>
      by_cases same : c = sep
      · simp [pieces, same, ih]
      · rw [List.cons_append, pieces, if_neg same, ih, pieces, if_neg same]
        cases cut : pieces sep text with
        | nil => exact absurd cut (pieces_ne_nil text)
        | cons piece others => rfl

theorem pieces_intercalate {names : List (List Char)} (nonempty : names ≠ [])
    (plain : ∀ name ∈ names, sep ∉ name) : pieces sep ([sep].intercalate names) = names := by
  induction names with
  | nil => exact absurd rfl nonempty
  | cons name rest ih =>
      have plainName := plain name (by simp)
      cases rest with
      | nil => rw [List.intercalate_singleton, pieces_plain plainName]
      | cons next others =>
          have plainRest : ∀ member ∈ next :: others, sep ∉ member :=
            fun member among => plain member (List.mem_cons_of_mem name among)
          have later := ih (by simp) plainRest
          rw [List.intercalate_cons_cons, List.append_assoc, List.singleton_append, pieces_append,
            pieces_plain plainName, later, List.singleton_append]

theorem sublist_of_mem_pieces {text piece : List Char} (member : piece ∈ pieces sep text) :
    piece.Sublist text := by
  induction text generalizing piece with
  | nil =>
      obtain rfl := List.mem_singleton.mp member
      exact List.Sublist.refl _
  | cons c rest ih =>
      by_cases same : c = sep
      · rw [pieces, if_pos same] at member
        rcases List.mem_cons.mp member with rfl | later
        · exact List.nil_sublist _
        · exact (ih later).cons c
      · rw [pieces, if_neg same] at member
        cases cut : pieces sep rest with
        | nil => exact absurd cut (pieces_ne_nil rest)
        | cons first others =>
            rw [cut] at member
            rcases List.mem_cons.mp member with rfl | later
            · exact (ih (cut ▸ List.mem_cons_self)).cons_cons c
            · exact (ih (cut ▸ List.mem_cons_of_mem first later)).cons c

theorem not_mem_intercalate {c : Char} {texts : List (List Char)} (other : c ≠ sep)
    (absent : ∀ text ∈ texts, c ∉ text) : c ∉ [sep].intercalate texts := by
  induction texts with
  | nil => exact List.not_mem_nil
  | cons text rest ih =>
      obtain ⟨here, later⟩ := List.forall_mem_cons.mp absent
      cases rest with
      | nil => rwa [List.intercalate_singleton]
      | cons next others =>
          rw [List.intercalate_cons_cons]
          simp [here, other, ih later]

theorem not_mem_beforeFirst (text : List Char) : sep ∉ beforeFirst sep text := by
  intro member
  have accepted := List.all_eq_true.mp (List.all_takeWhile (l := text)) _ member
  simp at accepted

theorem beforeFirst_append {text : List Char} (plain : sep ∉ text) (rest : List Char) :
    beforeFirst sep (text ++ rest) = text ++ beforeFirst sep rest :=
  List.takeWhile_append_of_pos fun _ member => decide_eq_true fun same => plain (same ▸ member)

theorem beforeFirst_append_of_mem {text : List Char} (member : sep ∈ text) (rest : List Char) :
    beforeFirst sep (text ++ rest) = beforeFirst sep text := by
  obtain ⟨before, after, rfl, plain⟩ := List.eq_append_cons_of_mem member
  rw [List.append_assoc, beforeFirst_append plain, beforeFirst_append plain]
  simp [beforeFirst]

theorem beforeFirst_plain {text : List Char} (plain : sep ∉ text) :
    beforeFirst sep text = text := by
  simpa [beforeFirst] using beforeFirst_append plain []

theorem beforeFirst_cut (sep : Char) (text rest : List Char) :
    ∃ tail, text ++ sep :: rest = beforeFirst sep text ++ sep :: tail := by
  by_cases member : sep ∈ text
  · obtain ⟨before, after, rfl, plain⟩ := List.eq_append_cons_of_mem member
    refine ⟨after ++ sep :: rest, ?_⟩
    rw [beforeFirst_append plain, List.append_assoc]
    simp [beforeFirst]
  · exact ⟨rest, by rw [beforeFirst_plain member]⟩

theorem beforeFirst_append_cons (text rest : List Char) :
    beforeFirst sep (text ++ sep :: rest) = beforeFirst sep text := by
  by_cases member : sep ∈ text
  · exact beforeFirst_append_of_mem member _
  · rw [beforeFirst_append member, beforeFirst_plain member]
    simp [beforeFirst]

theorem afterLast_eq_reverse (text : List Char) :
    afterLast sep text = (beforeFirst sep text.reverse).reverse := rfl

theorem afterLast_plain {text : List Char} (plain : sep ∉ text) : afterLast sep text = text := by
  rw [afterLast_eq_reverse, beforeFirst_plain fun member => plain (List.mem_reverse.mp member),
    List.reverse_reverse]

theorem afterLast_append_cons (text rest : List Char) :
    afterLast sep (text ++ sep :: rest) = afterLast sep rest := by
  rw [afterLast_eq_reverse, List.reverse_append, List.reverse_cons, List.append_assoc,
    List.singleton_append, beforeFirst_append_cons]
  rfl

theorem afterLast_append (text : List Char) {rest : List Char} (plain : sep ∉ rest) :
    afterLast sep (text ++ sep :: rest) = rest := by
  rw [afterLast_append_cons, afterLast_plain plain]

theorem afterLast_append_plain (text : List Char) {rest : List Char} (plain : sep ∉ rest) :
    afterLast sep (text ++ rest) = afterLast sep text ++ rest := by
  rw [afterLast_eq_reverse, List.reverse_append,
    beforeFirst_append fun member => plain (List.mem_reverse.mp member), List.reverse_append,
    List.reverse_reverse]
  rfl

theorem beforePiece_plain {piece text : List Char} (absent : ¬ piece <:+: text) :
    beforePiece piece text = text := by
  induction text with
  | nil => rfl
  | cons c rest ih =>
      have notHere : ¬ piece.isPrefixOf (c :: rest) = true := fun here =>
        absent (List.isPrefixOf_iff_prefix.mp here).isInfix
      rw [beforePiece, if_neg notHere, ih fun later => absent (List.infix_cons later)]

/-- A text is cut at two characters where the second of them comes first. -/
theorem beforePiece_pair {first second : Char} {text : List Char} (absent : second ∉ text)
    (different : first ≠ second) (rest : List Char) :
    beforePiece [first, second] (text ++ first :: second :: rest) = text := by
  induction text with
  | nil => simp [beforePiece]
  | cons c text ih =>
      have later : second ∉ text := fun member => absent (List.mem_cons_of_mem c member)
      have notHere : ¬ [first, second].isPrefixOf (c :: (text ++ first :: second :: rest)) = true := by
        intro here
        obtain ⟨-, next⟩ := List.cons_prefix_cons.mp (List.isPrefixOf_iff_prefix.mp here)
        cases text with
        | nil => exact different (List.cons_prefix_cons.mp next).1.symm
        | cons d text => exact later ((List.cons_prefix_cons.mp next).1 ▸ List.mem_cons_self)
      rw [List.cons_append, beforePiece, if_neg notHere, ih later]

/-- There is one place only to cut a text with that many separators in front. -/
theorem eq_of_cut {before other rest otherRest : List Char}
    (number : before.count sep = other.count sep)
    (same : before ++ sep :: rest = other ++ sep :: otherRest) :
    before = other ∧ rest = otherRest := by
  -- a part that only one of the two fronts has would begin with a separator
  have noMore {front more behind behindOther : List Char}
      (cut : sep :: behind = more ++ sep :: behindOther)
      (count : front.count sep = (front ++ more).count sep) : more = [] := by
    cases more with
    | nil => rfl
    | cons c more =>
        obtain ⟨rfl, -⟩ := List.cons.inj cut
        rw [List.count_append, List.count_cons_self] at count
        omega
  rcases List.append_eq_append_iff.mp same with ⟨more, rfl, cut⟩ | ⟨more, rfl, cut⟩
  · obtain rfl := noMore cut number
    rw [List.append_nil]
    exact ⟨rfl, (List.cons.inj cut).2⟩
  · obtain rfl := noMore cut number.symm
    rw [List.append_nil]
    exact ⟨rfl, (List.cons.inj cut).2.symm⟩

/-- There is one first place only to cut a text. -/
theorem eq_of_first_cut {before other rest otherRest : List Char} (plain : sep ∉ before)
    (otherPlain : sep ∉ other) (same : before ++ sep :: rest = other ++ sep :: otherRest) :
    before = other ∧ rest = otherRest :=
  eq_of_cut (by rw [List.count_eq_zero.mpr plain, List.count_eq_zero.mpr otherPlain]) same

end AssetAudit.Text
