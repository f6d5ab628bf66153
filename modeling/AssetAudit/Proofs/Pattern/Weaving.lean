import AssetAudit.Pattern.Search

namespace AssetAudit

/-! The pieces of a text between its matches, with the matches put back in, are the text. -/

/-- The characters of a match. -/
def Match.chars (found : Match) : List Char := found.start.rest.take found.length

/-- Texts with others between them. -/
def weave : List (List Char) → List (List Char) → List Char
  | [], _ => []
  | [text], _ => text
  | text :: _, [] => text
  | text :: texts, between :: others => text ++ between ++ weave texts others

theorem weave_cons {texts : List (List Char)} (nonempty : texts ≠ []) (text between : List Char)
    (others : List (List Char)) :
    weave (text :: texts) (between :: others) = text ++ between ++ weave texts others := by
  obtain ⟨next, rest, rfl⟩ := List.exists_cons_of_ne_nil nonempty
  rfl

theorem count_weave_le {c : Char} (texts others : List (List Char))
    (absent : ∀ other ∈ others, c ∉ other) :
    (weave texts others).count c ≤ texts.flatten.count c := by
  fun_induction weave texts others with
  | case1 => simp
  | case2 => simp
  | case3 text texts several => simp
  | case4 text texts between others several ih =>
      have rest := ih fun other member => absent other (List.mem_cons_of_mem between member)
      have none : between.count c = 0 := List.count_eq_zero.mpr (absent between (by simp))
      simp only [List.count_append, List.flatten_cons]
      omega

/-- With as many others as there are gaps the texts and the others are all there. -/
theorem count_weave {c : Char} (texts others : List (List Char))
    (fit : texts.length = others.length + 1) :
    (weave texts others).count c = texts.flatten.count c + others.flatten.count c := by
  fun_induction weave texts others with
  | case1 => cases fit
  | case2 text others =>
      obtain rfl : others = [] := List.length_eq_zero_iff.mp (by simpa using fit.symm)
      simp
  | case3 text texts several =>
      have none : texts = [] := List.length_eq_zero_iff.mp (by simpa using fit)
      exact absurd none several
  | case4 text texts between others several ih =>
      have rest := ih (by simpa using fit)
      simp only [List.count_append, List.flatten_cons, rest]
      omega

namespace Pattern

variable {pattern : Pattern}

theorem matchAt?_start {cursor : Cursor} {found : Match}
    (matched : pattern.matchAt? cursor = some found) : found.start = cursor := by
  obtain ⟨_, _, rfl⟩ := Option.map_eq_some_iff.mp matched
  rfl

theorem cutFrom_ne_nil (skip : Nat) (before piece text : List Char) :
    pattern.cutFrom skip before piece text ≠ [] := by
  induction text generalizing skip before piece with
  | nil => simp [cutFrom]
  | cons c text ih =>
      cases skip with
      | succ skip => exact ih skip _ _
      | zero =>
          rw [cutFrom]
          split
          · exact ih 0 _ _
          · simp

theorem length_cutFrom (skip : Nat) (before piece text : List Char) :
    (pattern.cutFrom skip before piece text).length =
      (pattern.findAllFrom skip before text).length + 1 := by
  induction text generalizing skip before piece with
  | nil => simp [cutFrom, findAllFrom]
  | cons c text ih =>
      cases skip with
      | succ skip => exact ih skip _ _
      | zero =>
          rw [cutFrom, findAllFrom]
          split
          · exact ih 0 _ _
          · rw [List.length_cons, List.length_cons, ih]

theorem length_cut (text : List Char) :
    (pattern.cut text).length = (pattern.findAll text).length + 1 :=
  length_cutFrom 0 [] [] text

theorem weave_cutFrom
    (consumes : ∀ cursor found, pattern.matchAt? cursor = some found → 0 < found.length)
    (skip : Nat) (before piece text : List Char) :
    weave (pattern.cutFrom skip before piece text)
        ((pattern.findAllFrom skip before text).map Match.chars) =
      piece.reverse ++ text.drop skip := by
  induction text generalizing skip before piece with
  | nil => simp [cutFrom, findAllFrom, weave]
  | cons c text ih =>
      cases skip with
      | succ skip => exact ih skip _ _
      | zero =>
          rw [cutFrom, findAllFrom]
          cases matched : pattern.matchAt? ⟨before, c :: text⟩ with
          | none => simpa using ih 0 (c :: before) (c :: piece)
          | some found =>
              -- the character here is the first one of the match, the others are skipped
              have positive := consumes _ found matched
              have chars : found.chars = (c :: text).take found.length := by
                rw [Match.chars, matchAt?_start matched]
              have rest : text.drop (found.length - 1) = (c :: text).drop found.length := by
                obtain ⟨count, same⟩ := Nat.exists_eq_add_of_lt positive
                rw [same]
                simp
              simp only [List.map_cons]
              rw [weave_cons (cutFrom_ne_nil _ _ _ _), ih, chars, rest, List.append_assoc]
              simp

/-- Cutting a text loses nothing but its matches. -/
theorem weave_cut
    (consumes : ∀ cursor found, pattern.matchAt? cursor = some found → 0 < found.length)
    (text : List Char) :
    weave (pattern.cut text) ((pattern.findAll text).map Match.chars) = text :=
  weave_cutFrom consumes 0 [] [] text

end Pattern

end AssetAudit
