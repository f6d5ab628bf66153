import AssetAudit.FormatCall
import AssetAudit.Proofs.Pattern.Matching

namespace AssetAudit.FormatCall

/-! A format string is cut into the texts between its conversions.  No conversion is the beginning
of another one, so what stands behind it does not matter. -/

open Pattern

/-- All conversions that stand for an argument. -/
def specifiers : List (List Char) :=
  [['%', '@'], ['%', 'd'], ['%', 'i'], ['%', 'u'], ['%', 's'],
    ['%', 'l', 'd'], ['%', 'l', 'i'], ['%', 'l', 'u'], ['%', 'l', 's'],
    ['%', 'l', 'l', 'd'], ['%', 'l', 'l', 'i'], ['%', 'l', 'l', 'u'], ['%', 'l', 'l', 's'],
    ['%', 'z', 'd']]

theorem mem_specifiers_of_matches {text : List Char} (recognised : specifier.Matches text) :
    text ∈ specifiers := by
  obtain ⟨reached, found, complete⟩ := recognised
  simp only [specifier, Pattern.sequence, choice, mem_ends_seq, mem_ends_either, mem_ends_optional,
    mem_ends_text, mem_ends_char, Cursor.atStart] at found
  obtain ⟨percent, ⟨start, _⟩, kind⟩ := found
  rcases kind with ⟨object, _⟩ |
    ⟨first, firstLong, second, secondLong, letter, known, last, _⟩ | ⟨size, _⟩
  · simp [start, object, complete, specifiers]
  · have letters : letter = 'd' ∨ letter = 'i' ∨ letter = 'u' ∨ letter = 's' := by
      simpa using known
    rw [complete] at last
    rcases firstLong with ⟨one, _⟩ | rfl <;> rcases secondLong with ⟨two, _⟩ | rfl <;>
      rcases letters with rfl | rfl | rfl | rfl <;> simp_all [specifiers]
  · simp [start, size, complete, specifiers]

theorem matchAt?_of_ne {c : Char} (other : c ≠ '%') (before rest : List Char) :
    specifier.matchAt? ⟨before, c :: rest⟩ = none := by
  simp [specifier, matchAt?, Pattern.sequence, choice, ends, Cursor.skip?, Cursor.advance?, other]

theorem matchAt?_specifier {spec : List Char} (known : spec ∈ specifiers) :
    ∃ c tail, spec = c :: tail ∧ ∀ before rest,
      (specifier.matchAt? ⟨before, c :: (tail ++ rest)⟩).map Match.length =
        some (tail.length + 1) := by
  simp only [specifiers, List.mem_cons, List.not_mem_nil, or_false] at known
  rcases known with rfl | rfl | rfl | rfl | rfl | rfl | rfl | rfl | rfl | rfl | rfl | rfl | rfl |
    rfl
  all_goals
    refine ⟨_, _, rfl, fun before rest => ?_⟩
    simp [specifier, matchAt?, Pattern.sequence, choice, ends, Cursor.skip?, Cursor.advance?,
      Match.length]
    omega

/-- A text without percent signs, a conversion and the rest. -/
theorem cut_specifier {text spec : List Char} (plain : '%' ∉ text)
    (recognised : specifier.Matches spec) (before piece rest : List Char) :
    specifier.cutFrom 0 before piece (text ++ (spec ++ rest)) =
      (piece.reverse ++ text) ::
        specifier.cutFrom 0 (spec.reverse ++ (text.reverse ++ before)) [] rest := by
  obtain ⟨c, tail, rfl, matched⟩ := matchAt?_specifier (mem_specifiers_of_matches recognised)
  have unmatched : ∀ d ∈ text, ∀ before rest, specifier.matchAt? ⟨before, d :: rest⟩ = none :=
    fun d member => matchAt?_of_ne fun percent => plain (percent ▸ member)
  rw [cutFrom_unmatched unmatched, List.cons_append, cutFrom_matched (matched _ rest),
    List.reverse_append, List.reverse_reverse]

theorem cut_plain {text : List Char} (plain : '%' ∉ text) (before piece : List Char) :
    specifier.cutFrom 0 before piece text = [piece.reverse ++ text] := by
  have unmatched : ∀ d ∈ text, ∀ before rest, specifier.matchAt? ⟨before, d :: rest⟩ = none :=
    fun d member => matchAt?_of_ne fun percent => plain (percent ▸ member)
  have whole := cutFrom_unmatched unmatched before piece []
  rw [List.append_nil] at whole
  rw [whole, cutFrom, List.reverse_append, List.reverse_reverse]

end AssetAudit.FormatCall
