import Mathlib.Data.List.Sort

namespace AssetAudit

/-! Sorting by a number keeps the order of the items that have the same one.  So the sorted list
depends on nothing but the items with each number. -/

variable {α : Type} {key : α → Nat} {items others : List α}

/-- The items in ascending order of their numbers. -/
abbrev sortedBy (key : α → Nat) (items : List α) : List α :=
  items.mergeSort fun first second => key first ≤ key second

theorem sortedBy_ascending (key : α → Nat) (items : List α) :
    (sortedBy key items).Pairwise fun first second => key first ≤ key second := by
  have sorted : (sortedBy key items).Pairwise fun first second =>
      decide (key first ≤ key second) = true :=
    List.pairwise_mergeSort (by simpa using fun _ _ _ => Nat.le_trans)
      (by simpa using fun _ _ => Nat.le_total _ _) items
  simpa using sorted

theorem filter_sortedBy (key : α → Nat) (items : List α) (number : Nat) :
    (sortedBy key items).filter (key · = number) = items.filter (key · = number) := by
  have level : (items.filter (key · = number)).Pairwise fun first second =>
      decide (key first ≤ key second) = true := by
    refine List.pairwise_of_forall_mem_list fun first member second among => ?_
    have here := of_decide_eq_true (List.mem_filter.mp member).2
    have there := of_decide_eq_true (List.mem_filter.mp among).2
    simp [here, there]
  have kept : (items.filter (key · = number)).Sublist (sortedBy key items) :=
    List.sublist_mergeSort (by simpa using fun _ _ _ => Nat.le_trans)
      (by simpa using fun _ _ => Nat.le_total _ _) level List.filter_sublist
  have within := kept.filter (key · = number)
  rw [List.filter_filter] at within
  simp only [Bool.and_self] at within
  refine (within.eq_of_length ?_).symm
  exact ((List.mergeSort_perm items _).filter _).length_eq.symm

/-- The items with the least number stand in front. -/
theorem filter_prefix_of_ascending
    (ascending : items.Pairwise fun first second => key first ≤ key second) {number : Nat}
    (least : ∀ item ∈ items, number ≤ key item) : items.filter (key · = number) <+: items := by
  induction items with
  | nil => exact List.prefix_refl []
  | cons item items ih =>
      obtain ⟨first, ascending⟩ := List.pairwise_cons.mp ascending
      obtain ⟨here, later⟩ := List.forall_mem_cons.mp least
      by_cases same : key item = number
      · rw [List.filter_cons_of_pos (by simpa using same)]
        exact (List.prefix_cons_inj item).mpr (ih ascending later)
      · have none : (item :: items).filter (key · = number) = [] := by
          refine List.filter_eq_nil_iff.mpr fun other member => ?_
          have behind : key item ≤ key other := by
            rcases List.mem_cons.mp member with rfl | among
            · exact Nat.le_refl _
            · exact first other among
          simp only [decide_eq_true_eq]
          omega
        rw [none]
        exact List.nil_prefix

theorem mem_of_filter_eq
    (same : ∀ number, items.filter (key · = number) = others.filter (key · = number)) {item : α}
    (member : item ∈ items) : item ∈ others := by
  have here : item ∈ items.filter (key · = key item) := List.mem_filter.mpr ⟨member, by simp⟩
  rw [same] at here
  exact (List.mem_filter.mp here).1

/-- Sorted lists that agree on the items with each number are the same. -/
theorem eq_of_filter_eq (ascending : items.Pairwise fun first second => key first ≤ key second)
    (othersAscending : others.Pairwise fun first second => key first ≤ key second)
    (same : ∀ number, items.filter (key · = number) = others.filter (key · = number)) :
    items = others := by
  induction items generalizing others with
  | nil =>
      exact (List.eq_nil_iff_forall_not_mem.mpr fun other member =>
        absurd (mem_of_filter_eq (fun number => (same number).symm) member)
          List.not_mem_nil).symm
  | cons item items ih =>
      have among := mem_of_filter_eq same List.mem_cons_self
      obtain ⟨other, rest, rfl⟩ := List.exists_cons_of_ne_nil (List.ne_nil_of_mem among)
      have back := mem_of_filter_eq (fun number => (same number).symm) List.mem_cons_self
      obtain ⟨least, itemsAscending⟩ := List.pairwise_cons.mp ascending
      obtain ⟨othersLeast, restAscending⟩ := List.pairwise_cons.mp othersAscending
      -- either head is the least item of its list, so their numbers are equal
      have level : key other = key item := by
        rcases List.mem_cons.mp among with rfl | later
        · rfl
        · rcases List.mem_cons.mp back with rfl | behind
          · rfl
          · exact Nat.le_antisymm (othersLeast item later) (least other behind)
      have heads := same (key item)
      rw [List.filter_cons_of_pos (by simp), List.filter_cons_of_pos (by simpa using level)]
        at heads
      obtain ⟨rfl, _⟩ := List.cons.inj heads
      congr 1
      refine ih itemsAscending restAscending fun number => ?_
      have whole := same number
      by_cases here : key item = number
      · rw [List.filter_cons_of_pos (by simpa using here),
          List.filter_cons_of_pos (by simpa using here)] at whole
        exact (List.cons.inj whole).2
      · rwa [List.filter_cons_of_neg (by simpa using here),
          List.filter_cons_of_neg (by simpa using here)] at whole

theorem sortedBy_congr
    (same : ∀ number, items.filter (key · = number) = others.filter (key · = number)) :
    sortedBy key items = sortedBy key others := by
  refine eq_of_filter_eq (sortedBy_ascending key items) (sortedBy_ascending key others) ?_
  intro number
  rw [filter_sortedBy, filter_sortedBy, same]

end AssetAudit
