import AssetAudit.Decimal.Tenths
import Mathlib.Tactic.Ring

namespace AssetAudit.Decimal

/-! Quotients that can be shown.  Rounding to a binary number moves a quotient up by one unit in
its last place at most, so a quotient below one power of two is shown as one below the next. -/

variable {numerator denominator bits up : Nat}

theorem twoPow_pos (exponent : Nat) : 0 < twoPow exponent := Nat.two_pow_pos exponent

theorem twoPow_le_twoPow (few : up ≤ bits) : twoPow up ≤ twoPow bits :=
  Nat.pow_le_pow_right Nat.two_pos few

theorem roundDiv_le (numerator denominator : Nat) :
    roundDiv numerator denominator ≤ numerator / denominator + 1 := by
  unfold roundDiv
  simp only
  split
  · omega
  · split <;> omega

theorem exponentFor_le (numerator denominator : Nat) :
    exponentFor numerator denominator ≤ (numerator.log2 : Int) - denominator.log2 - 52 := by
  unfold exponentFor
  extract_lets guess tooLarge
  change (if tooLarge then guess - 1 else guess) ≤ guess
  split <;> omega

/-- The binary logarithm of a quotient lies below the exponent of any power of two above it. -/
theorem log2_lt_of_lt (bounded : numerator < denominator * twoPow bits) :
    numerator.log2 < denominator.log2 + 1 + bits := by
  have wide : denominator * twoPow bits < 2 ^ (denominator.log2 + 1) * twoPow bits :=
    Nat.mul_lt_mul_of_pos_right Nat.lt_log2_self (twoPow_pos bits)
  rw [show twoPow bits = 2 ^ bits from rfl, ← pow_add] at wide
  by_cases empty : numerator = 0
  · rw [empty, Nat.log2_zero]
    omega
  · exact (Nat.log2_lt empty).mpr (Nat.lt_trans bounded wide)

/-- Rounding keeps a quotient within the double of a power of two above it. -/
theorem roundScaled_lt (bounded : numerator < denominator * twoPow bits) (few : up ≤ bits) :
    roundScaled numerator denominator (.ofNat up) * twoPow up < twoPow (bits + 1) := by
  have scaled : numerator / (denominator * twoPow up) * twoPow up ≤ numerator / denominator := by
    rw [← Nat.div_div_eq_div_mul]
    exact Nat.div_mul_le_self _ _
  have quotient : numerator / denominator < twoPow bits := Nat.div_lt_of_lt_mul bounded
  have unit : twoPow up ≤ twoPow bits := twoPow_le_twoPow few
  calc
    roundDiv numerator (denominator * twoPow up) * twoPow up
        ≤ (numerator / (denominator * twoPow up) + 1) * twoPow up :=
          Nat.mul_le_mul_right _ (roundDiv_le _ _)
    _ = numerator / (denominator * twoPow up) * twoPow up + twoPow up := by ring
    _ < twoPow bits + twoPow bits := by omega
    _ = twoPow (bits + 1) := by
          rw [← Nat.two_mul]
          exact Nat.pow_succ'.symm

/-- Every quotient below one of these powers of two can be shown. -/
theorem quotientText?_isSome (few : bits ≤ 1023) (bounded : numerator < denominator * twoPow bits) :
    ∃ text, quotientText? numerator denominator = some text := by
  have bounded : numerator < denominator * twoPow 1023 :=
    Nat.lt_of_lt_of_le bounded (Nat.mul_le_mul_left denominator (twoPow_le_twoPow few))
  have inRange : (nearestBinary numerator denominator).inRange = true := by
    unfold Binary.inRange nearestBinary
    simp only
    split
    · rename_i up exponent
      have few : up ≤ 1023 := by
        have above := exponentFor_le numerator denominator
        have logarithm := log2_lt_of_lt bounded
        rw [exponent, Int.ofNat_eq_natCast] at above
        clear bounded
        omega
      rw [exponent]
      exact decide_eq_true (roundScaled_lt bounded few)
    · rfl
  exact ⟨_, if_pos inRange⟩

end AssetAudit.Decimal
