import AssetAudit.Text.Lines
import Mathlib.Data.List.Infix

namespace AssetAudit.Text

/-! The number of a line counts the line feeds in front of an offset, from one on.  They are listed
in ascending order, so there is one place among them at which the offset can be put in, and as many
of them are in front of it. -/

/-- How many line feeds of a text are at positions below the offset. -/
def feedsBelow (text : List Char) (offset : Int) : Nat :=
  text.zipIdx.countP fun (c, position) => c = '\n' ∧ (position : Int) < offset

/-- Everything in front of the place is below the key, and nothing from there on is. -/
structure IsInsertionPoint (items : List Nat) (key : Int) (place : Nat) : Prop where
  within : place ≤ items.length
  below : ∀ item ∈ items.take place, (item : Int) < key
  notBelow : ∀ item ∈ items.drop place, key ≤ item

theorem IsInsertionPoint.eq_countP {items : List Nat} {key : Int} {place : Nat}
    (point : IsInsertionPoint items key place) :
    place = items.countP fun (item : Nat) => (item : Int) < key := by
  have front : (items.take place).countP (fun (item : Nat) => (item : Int) < key) = place := by
    rw [List.countP_eq_length.mpr fun item member => decide_eq_true (point.below item member),
      List.length_take, Nat.min_eq_left point.within]
  have back : (items.drop place).countP (fun (item : Nat) => (item : Int) < key) = 0 :=
    List.countP_eq_zero.mpr fun item member => by simpa using point.notBelow item member
  calc
    place = (items.take place ++ items.drop place).countP
        fun (item : Nat) => (item : Int) < key := by rw [List.countP_append, front, back]; rfl
    _ = items.countP fun (item : Nat) => (item : Int) < key := by rw [List.take_append_drop]

theorem isInsertionPoint_takeWhile {items : List Nat} (ascending : items.Pairwise (· < ·))
    (key : Int) :
    IsInsertionPoint items key
      (items.takeWhile fun (item : Nat) => (item : Int) < key).length := by
  induction items with
  | nil => exact ⟨Nat.le_refl 0, by simp, by simp⟩
  | cons item rest ih =>
      obtain ⟨first, later⟩ := List.pairwise_cons.mp ascending
      by_cases below : (item : Int) < key
      · have point := ih later
        rw [List.takeWhile_cons_of_pos (by simpa using below), List.length_cons]
        exact ⟨Nat.succ_le_succ point.within, List.forall_mem_cons.mpr ⟨below, point.below⟩,
          point.notBelow⟩
      · rw [List.takeWhile_cons_of_neg (by simpa using below)]
        refine ⟨Nat.zero_le _, by simp, List.forall_mem_cons.mpr ⟨Int.not_lt.mp below, ?_⟩⟩
        intro other member
        have above := first other member
        omega

theorem newlineOffsets_eq (start : Nat) (text : List Char) :
    newlineOffsets start text = ((text.zipIdx start).filter (·.1 = '\n')).map (·.2) := by
  induction text generalizing start with
  | nil => rfl
  | cons c text ih =>
      rw [newlineOffsets, List.zipIdx_cons, List.filter_cons, ih]
      by_cases feed : c = '\n'
      · simp [feed]
      · simp [feed]

theorem newlineOffsets_ascending (start : Nat) (text : List Char) :
    (newlineOffsets start text).Pairwise (· < ·) := by
  have positions : (newlineOffsets start text).Sublist (List.range' start text.length) := by
    rw [newlineOffsets_eq, ← List.zipIdx_map_snd]
    exact List.filter_sublist.map _
  exact List.Pairwise.sublist positions List.pairwise_lt_range'

theorem LineIndex.lineOf_eq_feedsBelow (text : List Char) (offset : Int) :
    (ofText text).lineOf offset = feedsBelow text offset + 1 := by
  have point := isInsertionPoint_takeWhile (newlineOffsets_ascending 0 text) offset
  rw [lineOf, ofText, point.eq_countP, newlineOffsets_eq, List.countP_map, List.countP_filter,
    feedsBelow]
  refine congrArg (· + 1) (List.countP_congr fun entry _ => ?_)
  simp [and_comm]

theorem countP_zipIdx (start : Nat) (text : List Char) (offset : Int) :
    ((text.zipIdx start).countP fun (c, position) => c = '\n' ∧ (position : Int) < offset) =
      (text.take (offset - start).toNat).count '\n' := by
  induction text generalizing start with
  | nil => simp
  | cons c text ih =>
      rw [List.zipIdx_cons, List.countP_cons, ih]
      by_cases below : (start : Int) < offset
      · have next : (offset - start).toNat = (offset - (start + 1 : Nat)).toNat + 1 := by omega
        rw [next, List.take_succ_cons, List.count_cons]
        simp [below]
      · have here : (offset - start).toNat = 0 := by omega
        have later : (offset - (start + 1 : Nat)).toNat = 0 := by omega
        rw [here, later, List.take_zero, List.take_zero]
        simp [below]

theorem feedsBelow_eq_count (text : List Char) (offset : Int) :
    feedsBelow text offset = (text.take offset.toNat).count '\n' := by
  have counted := countP_zipIdx 0 text offset
  rwa [Int.natCast_zero, Int.sub_zero] at counted

theorem lineOf_ofText (text : List Char) (offset : Nat) :
    (LineIndex.ofText text).lineOf offset = (text.take offset).count '\n' + 1 := by
  rw [LineIndex.lineOf_eq_feedsBelow, feedsBelow_eq_count, Int.toNat_natCast]

theorem lineOf_mono (text : List Char) {offset later : Int} (ordered : offset ≤ later) :
    (LineIndex.ofText text).lineOf offset ≤ (LineIndex.ofText text).lineOf later := by
  rw [LineIndex.lineOf_eq_feedsBelow, LineIndex.lineOf_eq_feedsBelow]
  refine Nat.add_le_add_right (List.countP_mono_left fun entry _ below => ?_) 1
  simp only [decide_eq_true_eq] at below ⊢
  exact ⟨below.1, Int.lt_of_lt_of_le below.2 ordered⟩

/-- All offsets of a part without line feeds, the one behind it included, have one number. -/
theorem lineOf_within {before line after : List Char} (noFeed : '\n' ∉ line) {offset : Nat}
    (starts : before.length ≤ offset) (stops : offset ≤ before.length + line.length) :
    (LineIndex.ofText (before ++ (line ++ after))).lineOf offset = before.count '\n' + 1 := by
  obtain ⟨within, rfl⟩ := Nat.exists_eq_add_of_le starts
  have inside : within ≤ line.length := Nat.le_of_add_le_add_left stops
  have taken : (before ++ (line ++ after)).take (before.length + within) =
      before ++ line.take within := by
    rw [List.take_length_add_append, List.take_append_of_le_length inside]
  have none : (line.take within).count '\n' = 0 :=
    List.count_eq_zero.mpr fun member => noFeed (List.mem_of_mem_take member)
  rw [lineOf_ofText, taken, List.count_append, none, Nat.add_zero]

theorem lineOf_behind_feed {before line after : List Char} (noFeed : '\n' ∉ line) :
    (LineIndex.ofText (before ++ (line ++ '\n' :: after))).lineOf
        (before.length + line.length + 1 : Nat) = before.count '\n' + 2 := by
  have taken : (before ++ (line ++ '\n' :: after)).take (before.length + line.length + 1) =
      before ++ (line ++ ['\n']) := by
    rw [Nat.add_assoc, List.take_length_add_append, List.take_length_add_append, List.take_succ_cons,
      List.take_zero]
  rw [lineOf_ofText, taken, List.count_append, List.count_append, List.count_eq_zero.mpr noFeed,
    List.count_singleton_self]

/-- How the offsets of a text are numbered by the lines that they are on. -/
structure LineIndex.NumbersLines (index : LineIndex) (text : List Char) : Prop where
  number : ∀ offset : Int, index.lineOf offset = 1 + feedsBelow text offset
  /-- The number tells at which place among the line feeds the offset can be put in. -/
  searched : ∀ (offset : Int) (place : Nat),
    IsInsertionPoint index.newlines offset place ↔ index.lineOf offset = place + 1
  monotone : ∀ offset later : Int, offset ≤ later → index.lineOf offset ≤ index.lineOf later
  /-- A line feed has the number of the line in front of it, and what is behind it the next one. -/
  feedEndsLine : ∀ before line after, text = before ++ (line ++ '\n' :: after) → '\n' ∉ line →
    (∀ offset : Nat, before.length ≤ offset → offset ≤ before.length + line.length →
      index.lineOf offset = before.count '\n' + 1) ∧
    index.lineOf (before.length + line.length + 1 : Nat) = before.count '\n' + 2

/-- The number of a line is one more than the line feeds below the offset, be it in the text or not.
A line feed belongs to the line that it ends. -/
theorem line_number_counts_feeds (text : List Char) :
    (LineIndex.ofText text).NumbersLines text where
  number offset := by rw [LineIndex.lineOf_eq_feedsBelow, Nat.add_comm]
  searched offset place := by
    have point : IsInsertionPoint (LineIndex.ofText text).newlines offset
        ((LineIndex.ofText text).newlines.takeWhile fun (newline : Nat) =>
          decide ((newline : Int) < offset)).length :=
      isInsertionPoint_takeWhile (newlineOffsets_ascending 0 text) offset
    rw [LineIndex.lineOf, Nat.add_right_cancel_iff]
    constructor
    · intro other
      rw [point.eq_countP, ← other.eq_countP]
    · rintro rfl
      exact point
  monotone _ _ ordered := lineOf_mono text ordered
  feedEndsLine before line after cut noFeed := by
    subst cut
    exact ⟨fun _ starts stops => lineOf_within noFeed starts stops, lineOf_behind_feed noFeed⟩

/-- The second line of a text ends at the first of two line feeds in a row. -/
theorem line_numbers_around_gap :
    let index := LineIndex.ofText ['a', '\n', 'b', 'c', '\n', '\n', 'd']
    '\n' ∉ ['b', 'c'] ∧ index.lineOf 4 = 2 ∧ index.lineOf 5 = 3 ∧
      IsInsertionPoint index.newlines 4 1 ∧ index.lineOf (-3) = 1 ∧ index.lineOf 99 = 4 := by
  have numbers := line_number_counts_feeds ['a', '\n', 'b', 'c', '\n', '\n', 'd']
  have noFeed : '\n' ∉ ['b', 'c'] := by decide
  obtain ⟨onLine, behind⟩ :=
    numbers.feedEndsLine ['a', '\n'] ['b', 'c'] ['\n', 'd'] rfl noFeed
  have feed := onLine 4 (by decide) (by decide)
  exact ⟨noFeed, feed, behind, (numbers.searched 4 1).mpr feed,
    (numbers.number (-3)).trans (by decide), (numbers.number 99).trans (by decide)⟩

end AssetAudit.Text
