import AssetAudit.Text.Sorted

namespace AssetAudit.Text

/-! The ascending list of a set of texts depends on the set alone. -/

theorem sorted_ascending (texts : List String) : (sorted texts).Pairwise (· ≤ ·) := by
  have result : (sorted texts).Pairwise fun first second => decide (first ≤ second) := by
    apply List.pairwise_mergeSort
    · intro _ _ _ first second
      exact decide_eq_true (String.le_trans (of_decide_eq_true first) (of_decide_eq_true second))
    · intro first second
      simpa using String.le_total first second
  exact result.imp fun ordered => of_decide_eq_true ordered

theorem sorted_eq_nil {texts : List String} : sorted texts = [] ↔ texts = [] := by
  rw [← List.length_eq_zero_iff, sorted, List.length_mergeSort, List.length_eq_zero_iff]

theorem nodup_of_strict_order {before : α → α → Prop} (asymm : ∀ x y, before x y → ¬ before y x)
    {items : List α} (ordered : items.Pairwise before) : items.Nodup := by
  refine ordered.imp fun {x y} precedes equal => ?_
  exact asymm x y precedes (equal ▸ equal ▸ precedes)

/-- Two lists in one strict order are equal as soon as they have the same members. -/
theorem eq_of_strict_order {before : α → α → Prop} (asymm : ∀ x y, before x y → ¬ before y x)
    {first second : List α} (firstOrdered : first.Pairwise before)
    (secondOrdered : second.Pairwise before) (same : ∀ item, item ∈ first ↔ item ∈ second) :
    first = second := by
  have members : first.Perm second :=
    (List.perm_ext_iff_of_nodup (nodup_of_strict_order asymm firstOrdered)
      (nodup_of_strict_order asymm secondOrdered)).mpr same
  exact members.eq_of_pairwise (fun x y _ _ forth back => (asymm x y forth back).elim)
    firstOrdered secondOrdered

theorem sorted_strict {names : List String} (distinct : names.Nodup) :
    (sorted names).Pairwise (· < ·) := by
  have sortedDistinct : (sorted names).Nodup :=
    (List.mergeSort_perm names _).nodup_iff.mpr distinct
  exact (sorted_ascending names).imp₂
    (fun _ _ ascending different => Std.lt_of_le_of_ne ascending different) sortedDistinct

theorem dropRepeats_strict {texts : List String} (ascending : texts.Pairwise (· ≤ ·)) :
    (dropRepeats texts).Pairwise (· < ·) := by
  induction texts with
  | nil => exact List.Pairwise.nil
  | cons first rest ih =>
      obtain ⟨below, restAscending⟩ := List.pairwise_cons.mp ascending
      cases rest with
      | nil => exact List.pairwise_singleton _ _
      | cons second rest =>
          by_cases same : first = second
          · rw [dropRepeats, if_pos same]
            exact ih restAscending
          · rw [dropRepeats, if_neg same]
            refine List.pairwise_cons.mpr ⟨?_, ih restAscending⟩
            intro text member
            have strict : first < second := Std.lt_of_le_of_ne (below second (by simp)) same
            rcases List.mem_cons.mp (mem_dropRepeats.mp member) with rfl | later
            · exact strict
            · exact Std.lt_of_lt_of_le strict ((List.pairwise_cons.mp restAscending).1 text later)

theorem sortedSet_strict (texts : List String) : (sortedSet texts).Pairwise (· < ·) :=
  dropRepeats_strict (sorted_ascending texts)

theorem sortedSet_nodup (texts : List String) : (sortedSet texts).Nodup :=
  nodup_of_strict_order (fun _ _ => String.lt_asymm) (sortedSet_strict texts)

theorem sortedSet_eq_of_mem_iff {left right : List String}
    (same : ∀ text, text ∈ left ↔ text ∈ right) : sortedSet left = sortedSet right := by
  refine eq_of_strict_order (fun _ _ => String.lt_asymm) (sortedSet_strict left)
    (sortedSet_strict right) fun text => ?_
  rw [mem_sortedSet, mem_sortedSet, same text]

end AssetAudit.Text
