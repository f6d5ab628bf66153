import AssetAudit.Compliance.Score

namespace AssetAudit

/-! The score falls with the issues and rises with the images.  Each kind of issue is rounded down
on its own, so the score can be a point above the one for the sum of both, and a severe issue can
cost less than a warning in its place. -/

variable {critical warning assetCount : Nat}

/-- What the issues cost in all. -/
def deduction (critical warning assetCount : Nat) : Nat :=
  60 * critical / assetCount + 30 * warning / assetCount

theorem rawScore_eq (critical warning assetCount : Nat) :
    rawScore critical warning assetCount = 100 - (deduction critical warning assetCount : Int) := by
  rw [rawScore, criticalWeight, warningWeight, deduction]
  push_cast
  omega

theorem complianceScore_eq (images : 1 ≤ assetCount) :
    complianceScore critical warning assetCount =
      ((100 - deduction critical warning assetCount : Nat) : Int) := by
  have positive : ¬ (assetCount : Int) ≤ 0 := by omega
  rw [complianceScore, if_neg positive, rawScore_eq]
  omega

theorem deduction_mono {moreCritical moreWarning fewer : Nat} (images : 1 ≤ fewer)
    (criticalGrows : critical ≤ moreCritical) (warningGrows : warning ≤ moreWarning)
    (shrinks : fewer ≤ assetCount) :
    deduction critical warning assetCount ≤ deduction moreCritical moreWarning fewer := by
  have nonzero : fewer ≠ 0 := Nat.one_le_iff_ne_zero.mp images
  exact Nat.add_le_add
    (Nat.div_le_div (Nat.mul_le_mul_left 60 criticalGrows) shrinks nonzero)
    (Nat.div_le_div (Nat.mul_le_mul_left 30 warningGrows) shrinks nonzero)

theorem deduction_eq_zero_iff (images : 1 ≤ assetCount) :
    deduction critical warning assetCount = 0 ↔
      60 * critical < assetCount ∧ 30 * warning < assetCount := by
  rw [deduction, Nat.add_eq_zero_iff, Nat.div_eq_zero_iff_lt images, Nat.div_eq_zero_iff_lt images]

/-- Rounding the two kinds apart takes off as much as rounding their sum, or a point less. -/
theorem deduction_rounded (critical warning : Nat) (images : 1 ≤ assetCount) :
    deduction critical warning assetCount ≤ (60 * critical + 30 * warning) / assetCount ∧
      (60 * critical + 30 * warning) / assetCount ≤
        deduction critical warning assetCount + 1 := by
  rw [Nat.add_div images, deduction]
  split <;> omega

theorem natCast_rounded (critical warning assetCount : Nat) :
    (((60 * critical + 30 * warning) / assetCount : Nat) : Int) =
      (60 * (critical : Int) + 30 * (warning : Int)) / (assetCount : Int) := by
  push_cast
  rfl

/-- What the score of a project with images obeys. -/
structure ScoreLaws (critical warning assetCount : Nat) : Prop where
  nonneg : 0 ≤ complianceScore critical warning assetCount
  atMostHundred : complianceScore critical warning assetCount ≤ 100
  falls : ∀ moreCritical moreWarning, critical ≤ moreCritical → warning ≤ moreWarning →
    complianceScore moreCritical moreWarning assetCount ≤
      complianceScore critical warning assetCount
  rises : ∀ more, assetCount ≤ more →
    complianceScore critical warning assetCount ≤ complianceScore critical warning more
  full : complianceScore critical warning assetCount = 100 ↔
    60 * critical < assetCount ∧ 30 * warning < assetCount
  confined : complianceScore critical warning assetCount =
    max 0 (min 100 (rawScore critical warning assetCount))
  /-- Rounding the two kinds of issues apart gives a point away at most. -/
  generous : 100 - (60 * critical + 30 * warning) / assetCount ≤
    rawScore critical warning assetCount
  exceeds : rawScore critical warning assetCount ≤
    100 - (60 * critical + 30 * warning) / assetCount + 1

theorem complianceScore_laws (critical warning : Nat) (images : 1 ≤ assetCount) :
    ScoreLaws critical warning assetCount where
  nonneg := by
    rw [complianceScore_eq images]
    exact Int.natCast_nonneg _
  atMostHundred := by
    rw [complianceScore_eq images]
    omega
  falls moreCritical moreWarning criticalGrows warningGrows := by
    have costs := deduction_mono images criticalGrows warningGrows (Nat.le_refl assetCount)
    rw [complianceScore_eq images, complianceScore_eq images]
    omega
  rises more grows := by
    have costs := deduction_mono images (Nat.le_refl critical) (Nat.le_refl warning) grows
    rw [complianceScore_eq images, complianceScore_eq (Nat.le_trans images grows)]
    omega
  full := by
    rw [← deduction_eq_zero_iff images, complianceScore_eq images]
    omega
  confined := by
    have positive : ¬ (assetCount : Int) ≤ 0 := by omega
    rw [complianceScore, if_neg positive]
  generous := by
    have rounded := (deduction_rounded critical warning images).1
    rw [rawScore_eq, ← natCast_rounded]
    omega
  exceeds := by
    have rounded := (deduction_rounded critical warning images).2
    rw [rawScore_eq, ← natCast_rounded]
    omega

/-- Both quotients of the deduction are rounded, and so is the quotient of the sum. -/
theorem sevenImages_laws : 1 ≤ 7 ∧ ScoreLaws 1 2 7 ∧ complianceScore 1 2 7 = 84 ∧
    rawScore 1 2 7 = 100 - (60 * 1 + 30 * 2) / 7 + 1 :=
  ⟨by decide, complianceScore_laws 1 2 (by decide), by decide, by decide⟩

/-! A warning that becomes a critical issue. -/

/-- What is added to a numerator counts beside the remainder only. -/
theorem add_div_eq (numerator added : Nat) (images : 1 ≤ assetCount) :
    (numerator + added) / assetCount =
      numerator / assetCount + (numerator % assetCount + added) / assetCount := by
  calc
    (numerator + added) / assetCount
        = (numerator % assetCount + added + assetCount * (numerator / assetCount)) /
            assetCount := by
          congr 1
          have parts := Nat.mod_add_div numerator assetCount
          omega
    _ = numerator / assetCount + (numerator % assetCount + added) / assetCount := by
          rw [Nat.add_mul_div_left _ _ images, Nat.add_comm]

/-- Less than a whole carries one at most, and just then it leaves less than itself. -/
theorem carry_iff (numerator : Nat) {added : Nat} (less : added < assetCount) :
    (numerator % assetCount + added) / assetCount ≤ 1 ∧
      (1 ≤ (numerator % assetCount + added) / assetCount ↔
        (numerator + added) % assetCount < added) := by
  have remainder : numerator % assetCount < assetCount := Nat.mod_lt _ (by omega)
  rw [← Nat.mod_add_mod]
  by_cases carries : assetCount ≤ numerator % assetCount + added
  · have left : numerator % assetCount + added - assetCount < assetCount := by omega
    rw [Nat.div_eq_sub_div (by omega) carries, Nat.div_eq_of_lt left, Nat.mod_eq_sub_mod carries,
      Nat.mod_eq_of_lt left]
    omega
  · have within : numerator % assetCount + added < assetCount := by omega
    rw [Nat.div_eq_of_lt within, Nat.mod_eq_of_lt within]
    omega

/-- The next critical issue costs nothing, and the last warning costs a point. -/
def RoundingFavoursCritical (critical warning assetCount : Nat) : Prop :=
  60 * critical % assetCount + 60 < assetCount ∧ 30 * warning % assetCount < 30

/-- A critical issue costs no less than the warning in its place, unless rounding favours it. -/
theorem deduction_reclassified (critical warning : Nat) (images : 1 ≤ assetCount) :
    deduction critical (warning + 1) assetCount ≤ deduction (critical + 1) warning assetCount + 1 ∧
      (deduction (critical + 1) warning assetCount <
          deduction critical (warning + 1) assetCount ↔
        RoundingFavoursCritical critical (warning + 1) assetCount) := by
  have criticalCosts := add_div_eq (60 * critical) 60 images
  have warningCosts := add_div_eq (30 * warning) 30 images
  have remainder : 30 * warning % assetCount < assetCount := Nat.mod_lt _ images
  simp only [deduction, RoundingFavoursCritical, Nat.mul_succ, criticalCosts, warningCosts]
  by_cases small : assetCount ≤ 30
  · -- the weight of a critical issue covers both the warning and what rounding adds to it
    have covered : (30 * warning % assetCount + 30) / assetCount ≤
        (60 * critical % assetCount + 60) / assetCount :=
      Nat.div_le_div_right (by omega)
    omega
  · obtain ⟨atMostOne, carries⟩ := carry_iff (30 * warning) (by omega : 30 < assetCount)
    have free := Nat.div_eq_zero_iff_lt (x := 60 * critical % assetCount + 60) images
    generalize (60 * critical % assetCount + 60) / assetCount = criticalCost at free ⊢
    generalize (30 * warning % assetCount + 30) / assetCount = warningCost at atMostOne carries ⊢
    omega

/-- A warning that turns critical never raises the score by more than a point, and never if there
are sixty images or fewer.  It raises the score just where rounding favours the critical issue, as
long as the score is not cut off at zero. -/
theorem reclassified_score (critical : Nat) (images : 1 ≤ assetCount) (warned : 1 ≤ warning) :
    (complianceScore (critical + 1) (warning - 1) assetCount ≤
        complianceScore critical warning assetCount ↔
      ¬ (RoundingFavoursCritical critical warning assetCount ∧
        0 ≤ rawScore critical warning assetCount)) ∧
    complianceScore (critical + 1) (warning - 1) assetCount ≤
      complianceScore critical warning assetCount + 1 ∧
    (assetCount ≤ 60 → complianceScore (critical + 1) (warning - 1) assetCount ≤
      complianceScore critical warning assetCount) := by
  obtain ⟨fewer, rfl⟩ := Nat.exists_eq_add_of_le' warned
  obtain ⟨close, cheaper⟩ := deduction_reclassified critical fewer images
  have turned : complianceScore (critical + 1) ((fewer + 1 : Nat) - 1) assetCount =
      ((100 - deduction (critical + 1) fewer assetCount : Nat) : Int) := by
    rw [← complianceScore_eq images]
    push_cast
    rw [Int.add_sub_cancel]
  rw [turned, complianceScore_eq images, rawScore_eq, ← cheaper]
  refine ⟨by omega, by omega, fun few => ?_⟩
  have costs : ¬ deduction (critical + 1) fewer assetCount <
      deduction critical (fewer + 1) assetCount := by
    rw [cheaper]
    rintro ⟨hidden, -⟩
    omega
  omega

/-- Among 61 images a critical issue costs nothing beside two warnings, and a third warning costs a
point. -/
theorem critical_scores_above_warning :
    ¬ complianceScore (0 + 1) (3 - 1) 61 ≤ complianceScore 0 3 61 := by
  decide

theorem reclassified_score_sixtyOne : 1 ≤ 61 ∧ 1 ≤ 3 ∧ RoundingFavoursCritical 0 3 61 ∧
    complianceScore (0 + 1) (3 - 1) 61 = complianceScore 0 3 61 + 1 := by
  have favoured : RoundingFavoursCritical 0 3 61 := ⟨by decide, by decide⟩
  obtain ⟨falls, close, -⟩ := reclassified_score 0 (by decide : 1 ≤ 61) (by decide : 1 ≤ 3)
  have rises : ¬ complianceScore (0 + 1) (3 - 1) 61 ≤ complianceScore 0 3 61 :=
    fun lower => falls.mp lower ⟨favoured, by decide⟩
  exact ⟨by decide, by decide, favoured, Int.le_antisymm close (Int.lt_of_not_ge rises)⟩

end AssetAudit
