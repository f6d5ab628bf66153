import AssetAudit.Proofs.Pattern.Traversal

namespace AssetAudit.Pattern

/-! Which of its ways a pattern prefers.  A run takes all it can, and a sequence goes on from the
preferred way of its first part as long as the second one can go on from there. -/

/-- The pattern prefers to get from one place to the other. -/
def Prefers (pattern : Pattern) (progress reached : Progress) : Prop :=
  (pattern.ends progress).head? = some reached

variable {before : List Char} {captures : List Capture}

theorem skip?_append (piece rest : List Char) (before : List Char) :
    Cursor.skip? piece ⟨before, piece ++ rest⟩ = some ⟨piece.reverse ++ before, rest⟩ :=
  skip?_eq_some.mpr ⟨rfl, rfl⟩

theorem prefers_text (piece : String) (rest : List Char) :
    (text piece).Prefers ⟨⟨before, piece.toList ++ rest⟩, captures⟩
      ⟨⟨piece.toList.reverse ++ before, rest⟩, captures⟩ := by
  rw [Prefers, ends, skip?_append]
  rfl

theorem prefers_char {accepts : Char → Bool} {c : Char} (accepted : accepts c = true)
    (rest : List Char) :
    (char accepts).Prefers ⟨⟨before, c :: rest⟩, captures⟩ ⟨⟨c :: before, rest⟩, captures⟩ := by
  simp [Prefers, ends, Cursor.advance?, accepted]

theorem runEnds_head? {accepts : Char → Bool} {taken rest : List Char}
    (accepted : ∀ c ∈ taken, accepts c = true) (stops : ∀ c ∈ rest.head?, accepts c = false)
    (found : List Cursor) :
    (Cursor.runEnds accepts found before (taken ++ rest)).head? =
      some ⟨taken.reverse ++ before, rest⟩ := by
  induction taken generalizing before found with
  | nil =>
      cases rest with
      | nil => rfl
      | cons c rest =>
          have stop : accepts c = false := stops c (by simp)
          rw [List.nil_append, Cursor.runEnds, if_neg (by simp [stop])]
          rfl
  | cons c taken ih =>
      rw [List.cons_append, Cursor.runEnds, if_pos (accepted c (by simp)),
        ih fun d member => accepted d (List.mem_cons_of_mem c member)]
      simp

theorem prefers_run {accepts : Char → Bool} {taken rest : List Char}
    (accepted : ∀ c ∈ taken, accepts c = true) (stops : ∀ c ∈ rest.head?, accepts c = false) :
    (run accepts).Prefers ⟨⟨before, taken ++ rest⟩, captures⟩
      ⟨⟨taken.reverse ++ before, rest⟩, captures⟩ := by
  rw [Prefers, ends, List.head?_map, runEnds_head? accepted stops]
  rfl

theorem prefers_no_run {accepts : Char → Bool} {rest : List Char}
    (stops : ∀ c ∈ rest.head?, accepts c = false) :
    (run accepts).Prefers ⟨⟨before, rest⟩, captures⟩ ⟨⟨before, rest⟩, captures⟩ :=
  prefers_run (fun _ none => absurd none List.not_mem_nil) stops

theorem prefers_seq {first second : Pattern} {progress middle reached : Progress}
    (start : first.Prefers progress middle) (rest : second.Prefers middle reached) :
    (seq first second).Prefers progress reached := by
  obtain ⟨others, ways⟩ := List.head?_eq_some_iff.mp start
  obtain ⟨more, further⟩ := List.head?_eq_some_iff.mp rest
  rw [Prefers, ends, ways, List.flatMap_cons, further]
  rfl

theorem prefers_someOf {accepts : Char → Bool} {taken rest : List Char} (nonempty : taken ≠ [])
    (accepted : ∀ c ∈ taken, accepts c = true) (stops : ∀ c ∈ rest.head?, accepts c = false) :
    (someOf accepts).Prefers ⟨⟨before, taken ++ rest⟩, captures⟩
      ⟨⟨taken.reverse ++ before, rest⟩, captures⟩ := by
  obtain ⟨c, others, rfl⟩ := List.exists_cons_of_ne_nil nonempty
  have further : (run accepts).Prefers ⟨⟨c :: before, others ++ rest⟩, captures⟩
      ⟨⟨others.reverse ++ c :: before, rest⟩, captures⟩ :=
    prefers_run (fun d member => accepted d (List.mem_cons_of_mem c member)) stops
  rw [List.reverse_cons, List.append_assoc]
  exact prefers_seq (prefers_char (accepted c (by simp)) _) further

theorem prefers_capture {body : Pattern} {progress reached : Progress}
    (inside : body.Prefers progress reached) :
    (capture body).Prefers progress
      { reached with captures := ⟨progress.cursor, reached.cursor⟩ :: reached.captures } := by
  rw [Prefers, ends, List.head?_map, inside]
  rfl

theorem capture_chars (before after taken rest : List Char) :
    (⟨⟨before, taken ++ rest⟩, ⟨after, rest⟩⟩ : Capture).chars = taken := by
  simp [Capture.chars]

theorem captured_of_map {found : Match} {texts : List (List Char)}
    (captures : found.captures.map Capture.chars = texts) (number : Nat) :
    found.captured number = texts[number]?.getD [] := by
  rw [Match.captured, ← captures, List.getElem?_map]

theorem matchAt?_of_prefers {pattern : Pattern} {cursor : Cursor} {reached : Progress}
    (preferred : pattern.Prefers ⟨cursor, []⟩ reached) :
    pattern.matchAt? cursor = some ⟨cursor, reached.cursor, reached.captures.reverse⟩ := by
  rw [matchAt?, preferred]
  rfl

variable {pattern : Pattern}

theorem matchAt?_eq_none {cursor : Cursor}
    (stuck : ∀ reached, reached ∉ pattern.ends ⟨cursor, []⟩) :
    pattern.matchAt? cursor = none := by
  rw [matchAt?, List.eq_nil_iff_forall_not_mem.mpr stuck]
  rfl

theorem findAllFrom_skip (before consumed rest : List Char) :
    pattern.findAllFrom consumed.length before (consumed ++ rest) =
      pattern.findAllFrom 0 (consumed.reverse ++ before) rest := by
  induction consumed generalizing before with
  | nil => rfl
  | cons c consumed ih =>
      rw [List.length_cons, List.cons_append, findAllFrom, ih, List.reverse_cons,
        List.append_assoc, List.singleton_append]

theorem findAllFrom_unmatched {text : List Char}
    (unmatched : ∀ c ∈ text, ∀ before rest, pattern.matchAt? ⟨before, c :: rest⟩ = none)
    (before rest : List Char) :
    pattern.findAllFrom 0 before (text ++ rest) =
      pattern.findAllFrom 0 (text.reverse ++ before) rest := by
  induction text generalizing before with
  | nil => rfl
  | cons c text ih =>
      rw [List.cons_append, findAllFrom, unmatched c (by simp)]
      simp only [ih fun d member => unmatched d (by simp [member]), List.reverse_cons,
        List.append_assoc, List.singleton_append]

theorem findAllFrom_matched {before rest consumed : List Char} {c : Char} {found : Match}
    (matched : pattern.matchAt? ⟨before, c :: (consumed ++ rest)⟩ = some found)
    (stop : found.stop.rest = rest) :
    pattern.findAllFrom 0 before (c :: (consumed ++ rest)) =
      found :: pattern.findAllFrom 0 (consumed.reverse ++ c :: before) rest := by
  have start : found.start = ⟨before, c :: (consumed ++ rest)⟩ := by
    obtain ⟨_, _, rfl⟩ := Option.map_eq_some_iff.mp matched
    rfl
  have length : found.length - 1 = consumed.length := by
    rw [Match.length, start, stop]
    simp only [List.length_cons, List.length_append]
    omega
  rw [findAllFrom, matched]
  simp only [length, findAllFrom_skip]

theorem findAllFrom_without {c : Char}
    (needed : ∀ before rest, c ∉ rest → pattern.matchAt? ⟨before, rest⟩ = none)
    {text : List Char} (absent : c ∉ text) (before : List Char) :
    pattern.findAllFrom 0 before text = [] := by
  induction text generalizing before with
  | nil => rfl
  | cons d text ih =>
      rw [findAllFrom, needed _ _ absent]
      exact ih (fun member => absent (List.mem_cons_of_mem d member)) _

/-- The one match behind a text in which none begins and before one without any. -/
theorem findAll_once {text taken tail : List Char} {reached : Progress}
    (unmatched : ∀ c ∈ text, ∀ before rest, pattern.matchAt? ⟨before, c :: rest⟩ = none)
    (nonempty : taken ≠ [])
    (preferred : pattern.Prefers ⟨⟨text.reverse, taken ++ tail⟩, []⟩ reached)
    (stop : reached.cursor.rest = tail)
    (silent : ∀ before, pattern.findAllFrom 0 before tail = []) :
    pattern.findAll (text ++ (taken ++ tail)) =
      [⟨⟨text.reverse, taken ++ tail⟩, reached.cursor, reached.captures.reverse⟩] := by
  obtain ⟨c, consumed, rfl⟩ := List.exists_cons_of_ne_nil nonempty
  have matched := matchAt?_of_prefers preferred
  rw [findAll, findAllFrom_unmatched unmatched, List.append_nil, List.cons_append,
    findAllFrom_matched matched stop, silent]
  rfl

end AssetAudit.Pattern
