import AssetAudit.Json.Reader
import Mathlib.Data.List.TakeWhile

namespace AssetAudit.Json

/-! A whole number is refused if it has more digits than the reader takes. -/

theorem ne_of_isDigit {digit other : Char} (isDigit : isDigit digit = true)
    (noDigit : Json.isDigit other = false) : digit ≠ other := by
  rintro rfl
  rw [isDigit] at noDigit
  cases noDigit

section Digits

variable {first : Char} {rest : List Char} (leading : isDigit first = true)

include leading

theorem skipBlanks_of_isDigit : skipBlanks (first :: rest) = first :: rest := by
  have visible : isJsonBlank first = false := by
    simp [isJsonBlank, ne_of_isDigit leading (show isDigit ' ' = false by decide),
      ne_of_isDigit leading (show isDigit '\t' = false by decide),
      ne_of_isDigit leading (show isDigit '\n' = false by decide),
      ne_of_isDigit leading (show isDigit '\r' = false by decide)]
  rw [skipBlanks, List.dropWhile_cons_of_neg (by simp [visible])]

theorem readKeyword?_of_isDigit : readKeyword? (first :: rest) = none := by
  have noWord : ∀ entry ∈ keywords, entry.1.isPrefixOf (first :: rest) = false := by
    have apart : ∀ entry ∈ keywords,
        ∃ head tail, entry.1 = head :: tail ∧ isDigit head = false := by
      simp [keywords, isDigit]
    intro entry listed
    obtain ⟨head, tail, spelled, noDigit⟩ := apart entry listed
    simp [spelled, List.isPrefixOf, (ne_of_isDigit leading noDigit).symm]
  rw [readKeyword?, List.find?_eq_none.mpr fun entry listed => by simp [noWord entry listed]]
  rfl

theorem readValue_of_isDigit (fuel : Nat) :
    readValue (fuel + 1) (first :: rest) = readNumber (first :: rest) := by
  unfold readValue
  split
  · contradiction
  · rename_i same
    exact absurd (List.cons.inj same).1 (ne_of_isDigit leading (by decide))
  · rename_i same
    exact absurd (List.cons.inj same).1 (ne_of_isDigit leading (by decide))
  · rename_i same
    exact absurd (List.cons.inj same).1 (ne_of_isDigit leading (by decide))
  · rw [readKeyword?_of_isDigit leading]

variable (nonzero : first ≠ '0') (digits : ∀ c ∈ rest, isDigit c = true)

include nonzero digits

theorem takeWhole_digits : takeWhole (first :: rest) = some (first :: rest, []) := by
  unfold takeWhole
  split
  · rename_i same
    exact absurd (List.cons.inj same).1 nonzero
  · rename_i same
    obtain ⟨rfl, rfl⟩ := List.cons.inj same
    rw [if_pos leading, List.takeWhile_eq_self_iff.mpr digits, List.dropWhile_eq_nil_iff.mpr digits]
  · contradiction

theorem readNumber_overlong (many : Text.maxDigits ≤ rest.length) :
    readNumber (first :: rest) = .error (.tooManyDigits (first :: rest).length) := by
  unfold readNumber
  split
  rename_i negative unsigned stripped
  split at stripped
  · rename_i same
    exact absurd (List.cons.inj same).1 (ne_of_isDigit leading (by decide))
  · obtain ⟨rfl, rfl⟩ := Prod.mk.inj stripped
    rw [takeWhole_digits leading nonzero digits]
    exact if_pos (Nat.lt_succ_of_le many)

theorem read_overlong (many : Text.maxDigits ≤ rest.length) :
    read (first :: rest) = .error (.tooManyDigits (first :: rest).length) := by
  unfold read readText
  split
  · rename_i same
    exact absurd (List.cons.inj same).1 (ne_of_isDigit leading (by decide))
  · rw [skipBlanks_of_isDigit leading, readValue_of_isDigit leading,
      readNumber_overlong leading nonzero digits many]
    rfl

end Digits

end AssetAudit.Json
