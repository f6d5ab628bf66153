import AssetAudit.Proofs.Pattern.Enclosure

namespace AssetAudit.Pattern

/-! Patterns that exclude each other.  What a pattern needs in front of it rules out all patterns
that need something else there. -/

/-- Every way of the pattern begins in front of such a text. -/
def Needs (pattern : Pattern) (holds : List Char → Prop) : Prop :=
  ∀ progress, ∀ reached ∈ pattern.ends progress, holds progress.cursor.rest

/-- There is no place from which both patterns have a way. -/
def Excludes (pattern other : Pattern) : Prop :=
  ∀ progress, pattern.ends progress = [] ∨ other.ends progress = []

variable {first second pattern other : Pattern} {holds otherHolds : List Char → Prop}

theorem Excludes.symm (excludes : pattern.Excludes other) : other.Excludes pattern :=
  fun progress => (excludes progress).symm

theorem Excludes.matchAt? (excludes : pattern.Excludes other) (cursor : Cursor) :
    pattern.matchAt? cursor = none ∨ other.matchAt? cursor = none := by
  refine (excludes ⟨cursor, []⟩).imp (fun none => ?_) fun none => ?_
  · rw [Pattern.matchAt?, none]
    rfl
  · rw [Pattern.matchAt?, none]
    rfl

theorem Needs.excludes (needs : pattern.Needs holds) (otherNeeds : other.Needs otherHolds)
    (apart : ∀ text, holds text → ¬ otherHolds text) : pattern.Excludes other := by
  intro progress
  cases ways : pattern.ends progress with
  | nil => exact Or.inl rfl
  | cons ended others =>
      refine Or.inr (List.eq_nil_iff_forall_not_mem.mpr fun reached member => ?_)
      have way : ended ∈ pattern.ends progress := ways ▸ List.mem_cons_self
      exact apart _ (needs progress ended way) (otherNeeds progress reached member)

theorem text_needs (piece : String) : (text piece).Needs (piece.toList <+: ·) := by
  intro progress reached member
  rw [(mem_ends_text.mp member).1]
  exact List.prefix_append _ _

theorem Needs.seq (needs : first.Needs holds) : (seq first second).Needs holds := by
  intro progress reached member
  obtain ⟨middle, start, _⟩ := mem_ends_seq.mp member
  exact needs progress middle start

theorem Needs.either (needs : first.Needs holds) (otherNeeds : second.Needs otherHolds) :
    (either first second).Needs fun text => holds text ∨ otherHolds text := by
  intro progress reached member
  exact (mem_ends_either.mp member).imp (needs progress reached) (otherNeeds progress reached)

theorem optional_needs (needs : first.Needs holds) (alsoNeeds : second.Needs holds) :
    (seq (optional first) second).Needs holds := by
  intro progress reached member
  obtain ⟨middle, start, rest⟩ := mem_ends_seq.mp member
  rcases mem_ends_optional.mp start with inside | rfl
  · exact needs progress middle inside
  · exact alsoNeeds middle reached rest

/-- Two texts of which neither begins with the other one are not both the beginning of a third. -/
theorem not_prefix_of_prefix {piece other text : List Char} (apart : ¬ piece <+: other)
    (otherApart : ¬ other <+: piece) (begins : piece <+: text) : ¬ other <+: text := fun also =>
  (List.prefix_or_prefix_of_prefix begins also).elim apart otherApart

/-- A run that stops in front of another character has taken all it could. -/
theorem dropWhile_of_mem_run {accepts : Char → Bool} {progress reached : Progress}
    (member : reached ∈ (run accepts).ends progress)
    (stops : ∀ c ∈ reached.cursor.rest.head?, accepts c = false) :
    progress.cursor.rest.dropWhile accepts = reached.cursor.rest := by
  obtain ⟨taken, all, passed, _⟩ := passes_of_mem_run member
  rw [passed.1, List.dropWhile_append_of_pos all]
  cases rest : reached.cursor.rest with
  | nil => rfl
  | cons c later => rw [List.dropWhile_cons_of_neg (by simp [stops c (by simp [rest])])]

theorem dropWhile_of_mem_someOf {accepts : Char → Bool} {progress reached : Progress}
    (member : reached ∈ (someOf accepts).ends progress)
    (stops : ∀ c ∈ reached.cursor.rest.head?, accepts c = false) :
    progress.cursor.rest.dropWhile accepts = reached.cursor.rest ∧
      ∃ c ∈ progress.cursor.rest.head?, accepts c = true := by
  obtain ⟨middle, one, more⟩ := mem_ends_seq.mp member
  obtain ⟨c, accepted, passed, _⟩ := passes_of_mem_char one
  have start : progress.cursor.rest = c :: middle.cursor.rest := passed.1
  refine ⟨?_, c, by simp [start], accepted⟩
  rw [start, List.dropWhile_cons_of_pos accepted, dropWhile_of_mem_run more stops]

end AssetAudit.Pattern
