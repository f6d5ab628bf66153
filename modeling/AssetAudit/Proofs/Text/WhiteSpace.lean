import AssetAudit.Text.Blank
import AssetAudit.Text.Lines
import AssetAudit.Text.Word

namespace AssetAudit.Text

/-! White space has finitely many codes, so a statement about all of it can be checked code by
code. -/

/-- The codes of all white space. -/
def blankCodes : List Nat :=
  [9, 10, 11, 12, 13, 28, 29, 30, 31, 32, 0x85, 0xA0, 0x1680, 0x2000, 0x2001, 0x2002, 0x2003,
    0x2004, 0x2005, 0x2006, 0x2007, 0x2008, 0x2009, 0x200A, 0x2028, 0x2029, 0x202F, 0x205F, 0x3000]

theorem mem_blankCodes {c : Char} (blank : isBlank c = true) : c.toNat ∈ blankCodes := by
  unfold isBlank at blank
  simp only [blankCodes, List.mem_cons, List.not_mem_nil, or_false]
  dsimp only at blank
  split at blank
  · simp only [Bool.or_eq_true, Bool.and_eq_true, decide_eq_true_eq] at blank
    omega
  · simp only [Bool.or_eq_true, Bool.and_eq_true, decide_eq_true_eq, beq_iff_eq] at blank
    omega

theorem eq_false_of_isBlank {accepts : Char → Bool}
    (none : ∀ code ∈ blankCodes, accepts (Char.ofNat code) = false) {c : Char}
    (blank : isBlank c = true) : accepts c = false := by
  have here := none c.toNat (mem_blankCodes blank)
  rwa [Char.ofNat_toNat] at here

/-- White space is part of no word. -/
theorem isWord_of_isBlank {c : Char} (blank : isBlank c = true) : isWord c = false :=
  eq_false_of_isBlank (by decide +kernel) blank

/-- White space is part of no ASCII identifier. -/
theorem isNamePart_of_isBlank {c : Char} (blank : isBlank c = true) : isNamePart c = false :=
  eq_false_of_isBlank (by decide) blank

theorem not_isBlank_of_isNamePart {c : Char} (part : isNamePart c = true) : isBlank c = false := by
  cases blank : isBlank c with
  | false => rfl
  | true =>
      rw [isNamePart_of_isBlank blank] at part
      cases part

theorem isBlank_of_isLineBoundary {c : Char} (boundary : isLineBoundary c = true) :
    isBlank c = true := by
  simp only [isLineBoundary, Bool.or_eq_true, beq_iff_eq, or_assoc] at boundary
  rcases boundary with rfl | rfl | rfl | rfl | rfl | rfl | rfl | rfl | rfl | rfl <;> decide

/-- No line ends inside an ASCII identifier. -/
theorem not_isLineBoundary_of_isNamePart {c : Char} (part : isNamePart c = true) :
    isLineBoundary c = false := by
  cases boundary : isLineBoundary c with
  | false => rfl
  | true =>
      have blank := isBlank_of_isLineBoundary boundary
      rw [not_isBlank_of_isNamePart part] at blank
      cases blank

end AssetAudit.Text
