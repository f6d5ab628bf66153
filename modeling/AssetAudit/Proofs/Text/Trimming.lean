import AssetAudit.Text.Blank
import Mathlib.Data.List.TakeWhile

namespace AssetAudit.Text

/-! What the trimming of a text takes away is white space at its two ends. -/

theorem dropEndWhile_append (test : α → Bool) (items : List α) :
    ∃ dropped, items = dropEndWhile test items ++ dropped ∧ ∀ item ∈ dropped, test item = true := by
  refine ⟨(items.reverse.takeWhile test).reverse, ?_, fun item member => ?_⟩
  · rw [dropEndWhile, ← List.reverse_append, List.takeWhile_append_dropWhile, List.reverse_reverse]
  · exact List.all_eq_true.mp List.all_takeWhile item (List.mem_reverse.mp member)

theorem strip_append (text : List Char) :
    ∃ front back, text = front ++ (strip text ++ back) ∧
      (∀ c ∈ front, isBlank c = true) ∧ ∀ c ∈ back, isBlank c = true := by
  obtain ⟨back, cut, blank⟩ := dropEndWhile_append isBlank (text.dropWhile isBlank)
  refine ⟨text.takeWhile isBlank, back, ?_, List.all_eq_true.mp List.all_takeWhile, blank⟩
  rw [strip, ← cut, List.takeWhile_append_dropWhile]

/-- Trimming leaves all visible characters. -/
theorem count_strip {c : Char} (visible : isBlank c = false) (text : List Char) :
    (strip text).count c = text.count c := by
  obtain ⟨front, back, cut, frontBlank, backBlank⟩ := strip_append text
  have absent {blanks : List Char} (blank : ∀ d ∈ blanks, isBlank d = true) :
      blanks.count c = 0 :=
    List.count_eq_zero.mpr fun member => by simp [blank c member] at visible
  calc
    (strip text).count c = front.count c + ((strip text).count c + back.count c) := by
      rw [absent frontBlank, absent backBlank, Nat.zero_add, Nat.add_zero]
    _ = text.count c := by rw [← List.count_append, ← List.count_append, ← cut]

theorem dropEndWhile_append_of_pos {test : α → Bool} {dropped : List α}
    (all : ∀ item ∈ dropped, test item = true) (items : List α) :
    dropEndWhile test (items ++ dropped) = dropEndWhile test items := by
  rw [dropEndWhile, List.reverse_append,
    List.dropWhile_append_of_pos fun item member => all item (List.mem_reverse.mp member)]
  rfl

theorem dropEndWhile_append_cons {test : α → Bool} {kept : α} (fails : test kept = false)
    (front items : List α) :
    dropEndWhile test (front ++ kept :: items) = front ++ kept :: dropEndWhile test items := by
  have stops : (kept :: front.reverse).dropWhile test = kept :: front.reverse :=
    List.dropWhile_cons_of_neg (by simp [fails])
  rw [dropEndWhile, dropEndWhile, List.reverse_append, List.reverse_cons, List.append_assoc,
    List.singleton_append, List.dropWhile_append, stops]
  split
  · rename_i none
    rw [List.isEmpty_iff.mp none]
    simp
  · simp

theorem dropEndWhile_eq_self {test : α → Bool} {items : List α}
    (last : ∀ item ∈ items.getLast?, test item = false) : dropEndWhile test items = items := by
  have stops : items.reverse.dropWhile test = items.reverse := by
    cases reversed : items.reverse with
    | nil => rfl
    | cons item rest =>
        have isLast : items.getLast? = some item := by rw [← List.head?_reverse, reversed]; rfl
        exact List.dropWhile_cons_of_neg (by simp [last item isLast])
  rw [dropEndWhile, stops, List.reverse_reverse]

theorem strip_append_cons {front : List Char} {c : Char} (blank : ∀ d ∈ front, isBlank d = true)
    (visible : isBlank c = false) (rest : List Char) :
    strip (front ++ c :: rest) = c :: dropEndWhile isBlank rest := by
  rw [strip, List.dropWhile_append_of_pos blank, List.dropWhile_cons_of_neg (by simp [visible])]
  exact dropEndWhile_append_cons visible [] rest

theorem strip_blank {text : List Char} (blank : ∀ c ∈ text, isBlank c = true) :
    strip text = [] := by
  rw [strip, List.dropWhile_eq_nil_iff.mpr blank]
  rfl

theorem strip_append_blank (text : List Char) {back : List Char}
    (blank : ∀ c ∈ back, isBlank c = true) : strip (text ++ back) = strip text := by
  rw [strip, strip, List.dropWhile_append]
  split
  · rename_i none
    rw [List.isEmpty_iff.mp none, List.dropWhile_eq_nil_iff.mpr blank]
  · exact dropEndWhile_append_of_pos blank _

theorem strip_dropEndWhile (text : List Char) :
    strip (dropEndWhile isBlank text) = strip text := by
  obtain ⟨dropped, cut, blank⟩ := dropEndWhile_append isBlank text
  calc
    strip (dropEndWhile isBlank text) = strip (dropEndWhile isBlank text ++ dropped) :=
      (strip_append_blank _ blank).symm
    _ = strip text := by rw [← cut]

end AssetAudit.Text
