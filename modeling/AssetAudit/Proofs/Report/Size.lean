import AssetAudit.Report.Data
import AssetAudit.Report.Text
import AssetAudit.Proofs.Decimal.Range
import AssetAudit.Proofs.Outcome

namespace AssetAudit

/-! A report can be written unless its images take up more space than a number with a point can
show. -/

/-- Sizes below this one can be shown. -/
def sizeLimit : Nat := 1024 * 1024 * Decimal.twoPow 1023

theorem sizeLimit_pos : 0 < sizeLimit :=
  Nat.mul_pos (by decide) (Decimal.twoPow_pos 1023)

theorem sizeQuotient_isSome {size divisor bits : Nat} (unit : String) (few : bits ≤ 1023)
    (bounded : size < divisor * Decimal.twoPow bits) :
    ∃ text, sizeQuotient size divisor unit = .ok text := by
  obtain ⟨quotient, shown⟩ := Decimal.quotientText?_isSome few bounded
  exact ⟨quotient ++ unit, by rw [sizeQuotient, shown]⟩

theorem sizeText_isSome {size : Int} (small : size < sizeLimit) :
    ∃ text, sizeText size = .ok text := by
  unfold sizeText
  split
  · exact ⟨_, rfl⟩
  · split
    · rename_i belowMega
      have bounded : size.toNat < 1024 * Decimal.twoPow 10 :=
        (Int.toNat_lt' (by decide)).mpr belowMega
      exact sizeQuotient_isSome _ (by decide) bounded
    · exact sizeQuotient_isSome _ (Nat.le_refl 1023) ((Int.toNat_lt' sizeLimit_pos).mpr small)

section Total

variable {assets : List Asset} (nonneg : ∀ asset ∈ assets, 0 ≤ asset.byteSize)

include nonneg

theorem totalByteSize_nonneg : 0 ≤ totalByteSize assets := by
  induction assets with
  | nil => exact Int.le_refl 0
  | cons asset rest ih =>
      have here := nonneg asset (by simp)
      have later := ih fun other among => nonneg other (List.mem_cons_of_mem asset among)
      exact Int.add_nonneg here later

theorem totalByteSize_filter_le (keep : Asset → Bool) :
    totalByteSize (assets.filter keep) ≤ totalByteSize assets := by
  induction assets with
  | nil => exact Int.le_refl 0
  | cons asset rest ih =>
      have here := nonneg asset (by simp)
      have later := ih fun other among => nonneg other (List.mem_cons_of_mem asset among)
      rw [List.filter_cons]
      split
      · exact Int.add_le_add_left later asset.byteSize
      · exact Int.le_trans later (Int.le_add_of_nonneg_left here)

theorem byteSize_le_total {asset : Asset} (member : asset ∈ assets) :
    asset.byteSize ≤ totalByteSize assets := by
  induction assets with
  | nil => cases member
  | cons first rest ih =>
      have here := nonneg first (by simp)
      have restNonneg : ∀ other ∈ rest, 0 ≤ other.byteSize :=
        fun other among => nonneg other (List.mem_cons_of_mem first among)
      rcases List.mem_cons.mp member with rfl | later
      · exact Int.le_add_of_nonneg_right (totalByteSize_nonneg restNonneg)
      · exact Int.le_trans (ih restNonneg later) (Int.le_add_of_nonneg_left here)

end Total

/-- All the sizes that the report may show are below the limit. -/
structure AuditReport.IsShowable (report : AuditReport) : Prop where
  total : report.totalSize < sizeLimit
  unusedTotal : report.unusedSize < sizeLimit
  unused : ∀ asset ∈ report.usage.unused, asset.byteSize < sizeLimit

section Showable

variable {report : AuditReport} (showable : report.IsShowable) (selection : Selection)

include showable

theorem unusedActions_succeeds : ∃ actions, unusedActions report = .ok actions := by
  unfold unusedActions
  split
  · exact ⟨[], rfl⟩
  · exact bind_succeeds (sizeText_isSome showable.unusedTotal) fun size => ⟨_, rfl⟩

theorem actionItems_succeeds : ∃ actions, actionItems report selection = .ok actions := by
  unfold actionItems
  simp only
  split
  · exact bind_succeeds (unusedActions_succeeds showable) fun unused => ⟨_, rfl⟩
  · exact ⟨_, rfl⟩

theorem dataReport_succeeds : ∃ text, DataReport.text report selection = .ok text :=
  bind_succeeds (bind_succeeds (actionItems_succeeds showable selection) fun _ => ⟨_, rfl⟩)
    fun _ => ⟨_, rfl⟩

theorem unusedSection_succeeds : ∃ lines, TextReport.unusedSection report = .ok lines := by
  refine bind_succeeds (sizeText_isSome showable.unusedTotal) fun size => ?_
  refine bind_succeeds (mapM_succeeds fun asset member => ?_) fun lines => ⟨_, rfl⟩
  exact bind_succeeds (sizeText_isSome (showable.unused asset member)) fun size => ⟨_, rfl⟩

theorem textLines_succeeds : ∃ lines, TextReport.lines report selection = .ok lines := by
  have actions := actionItems_succeeds showable selection
  refine bind_succeeds (bind_succeeds (sizeText_isSome showable.total) fun size => ⟨_, rfl⟩)
    fun head => ?_
  simp only
  split
  · exact bind_succeeds (unusedSection_succeeds showable)
      fun unused => bind_succeeds actions fun _ => ⟨_, rfl⟩
  · exact bind_succeeds ⟨[], rfl⟩ fun unused => bind_succeeds actions fun _ => ⟨_, rfl⟩

theorem textReport_succeeds : ∃ text, TextReport.text report selection = .ok text :=
  bind_succeeds (textLines_succeeds showable selection) fun _ => ⟨_, rfl⟩

end Showable

end AssetAudit
