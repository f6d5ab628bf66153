import AssetAudit.Proofs.Pattern.Matching

namespace AssetAudit

/-! Matching goes forward over a text.  It leaves the text as it is, and what it captures on the way
from one place to another lies between the two. -/

namespace Cursor

/-- The second place comes behind the first, with this piece of text between them. -/
def Passes (start : Cursor) (piece : List Char) (stop : Cursor) : Prop :=
  start.rest = piece ++ stop.rest ∧ stop.before = piece.reverse ++ start.before

def Reaches (start stop : Cursor) : Prop := ∃ piece, start.Passes piece stop

variable {start middle stop : Cursor} {piece next : List Char}

theorem Passes.nil (cursor : Cursor) : cursor.Passes [] cursor := ⟨rfl, rfl⟩

theorem Passes.append (first : start.Passes piece middle) (second : middle.Passes next stop) :
    start.Passes (piece ++ next) stop := by
  obtain ⟨firstRest, firstBefore⟩ := first
  obtain ⟨secondRest, secondBefore⟩ := second
  constructor
  · rw [firstRest, secondRest, List.append_assoc]
  · rw [secondBefore, firstBefore, List.reverse_append, List.append_assoc]

theorem Passes.text (passed : start.Passes piece stop) : stop.text = start.text := by
  rw [Cursor.text, Cursor.text, passed.1, passed.2, List.reverse_append, List.reverse_reverse,
    List.append_assoc]

theorem Passes.offset (passed : start.Passes piece stop) :
    stop.offset = start.offset + piece.length := by
  rw [Cursor.offset, Cursor.offset, passed.2, List.length_append, List.length_reverse,
    Nat.add_comm]

theorem Reaches.refl (cursor : Cursor) : cursor.Reaches cursor := ⟨[], .nil cursor⟩

theorem Reaches.trans (first : start.Reaches middle) (second : middle.Reaches stop) :
    start.Reaches stop := by
  obtain ⟨piece, passed⟩ := first
  obtain ⟨next, further⟩ := second
  exact ⟨piece ++ next, passed.append further⟩

theorem Reaches.text (reached : start.Reaches stop) : stop.text = start.text := by
  obtain ⟨_, passed⟩ := reached
  exact passed.text

theorem Reaches.offset_le (reached : start.Reaches stop) : start.offset ≤ stop.offset := by
  obtain ⟨_, passed⟩ := reached
  rw [passed.offset]
  exact Nat.le_add_right _ _

end Cursor

theorem Capture.chars_of_passes {capture : Capture} {piece : List Char}
    (passed : capture.start.Passes piece capture.stop) : capture.chars = piece := by
  rw [Capture.chars, passed.1, List.length_append, Nat.add_sub_cancel, List.take_left]

/-- A capture between two places of one text. -/
structure Capture.LiesBetween (capture : Capture) (start stop : Cursor) : Prop where
  ahead : start.Reaches capture.start
  inside : capture.start.Reaches capture.stop
  behind : capture.stop.Reaches stop

theorem Capture.LiesBetween.passes {capture : Capture} {start stop : Cursor}
    (lies : capture.LiesBetween start stop) : capture.start.Passes capture.chars capture.stop := by
  obtain ⟨piece, passed⟩ := lies.inside
  exact (Capture.chars_of_passes passed) ▸ passed

/-- The second state of a match comes behind the first, and what was captured meanwhile lies
between them. -/
structure Progress.Leads (progress reached : Progress) : Prop where
  forward : progress.cursor.Reaches reached.cursor
  captured : ∃ made, reached.captures = made ++ progress.captures ∧
    ∀ capture ∈ made, capture.LiesBetween progress.cursor reached.cursor

namespace Progress.Leads

variable {progress middle reached : Progress}

theorem refl (progress : Progress) : progress.Leads progress :=
  ⟨.refl _, [], rfl, fun _ none => absurd none List.not_mem_nil⟩

theorem trans (first : progress.Leads middle) (second : middle.Leads reached) :
    progress.Leads reached := by
  obtain ⟨made, captures, within⟩ := first.captured
  obtain ⟨more, further, beyond⟩ := second.captured
  refine ⟨first.forward.trans second.forward, more ++ made, ?_, fun capture member => ?_⟩
  · rw [further, captures, List.append_assoc]
  · rcases List.mem_append.mp member with late | early
    · have lies := beyond capture late
      exact ⟨first.forward.trans lies.ahead, lies.inside, lies.behind⟩
    · have lies := within capture early
      exact ⟨lies.ahead, lies.inside, lies.behind.trans second.forward⟩

/-- Without a capture only the place changes. -/
theorem of_passes {piece : List Char} (passed : progress.cursor.Passes piece reached.cursor)
    (same : reached.captures = progress.captures) : progress.Leads reached :=
  ⟨⟨piece, passed⟩, [], same, fun _ none => absurd none List.not_mem_nil⟩

end Progress.Leads

namespace Pattern

variable {progress reached : Progress} {pattern : Pattern}

theorem passes_of_mem_runEnds {accepts : Char → Bool} {before rest : List Char}
    {found : List Cursor} {stop : Cursor}
    (member : stop ∈ Cursor.runEnds accepts found before rest) :
    stop ∈ found ∨ ∃ taken, (∀ c ∈ taken, accepts c = true) ∧
      (⟨before, rest⟩ : Cursor).Passes taken stop := by
  induction rest generalizing before found with
  | nil =>
      rcases List.mem_cons.mp member with rfl | old
      · exact Or.inr ⟨[], by simp, .nil _⟩
      · exact Or.inl old
  | cons c rest ih =>
      rw [Cursor.runEnds] at member
      split at member
      · rename_i accepted
        rcases ih member with among | ⟨taken, all, passed⟩
        · rcases List.mem_cons.mp among with rfl | old
          · exact Or.inr ⟨[], by simp, .nil _⟩
          · exact Or.inl old
        · have step : (⟨before, c :: rest⟩ : Cursor).Passes [c] ⟨c :: before, rest⟩ := ⟨rfl, rfl⟩
          exact Or.inr ⟨[c] ++ taken, List.forall_mem_cons.mpr ⟨accepted, all⟩,
            step.append passed⟩
      · rcases List.mem_cons.mp member with rfl | old
        · exact Or.inr ⟨[], by simp, .nil _⟩
        · exact Or.inl old

theorem passes_of_mem_run {accepts : Char → Bool} (member : reached ∈ (run accepts).ends progress) :
    ∃ taken, (∀ c ∈ taken, accepts c = true) ∧ progress.cursor.Passes taken reached.cursor ∧
      reached.captures = progress.captures := by
  obtain ⟨cursor, among, rfl⟩ := List.mem_map.mp member
  rcases passes_of_mem_runEnds among with none | ⟨taken, all, passed⟩
  · cases none
  · exact ⟨taken, all, passed, rfl⟩

theorem passes_of_mem_text {piece : String} (member : reached ∈ (text piece).ends progress) :
    progress.cursor.Passes piece.toList reached.cursor ∧ reached.captures = progress.captures := by
  obtain ⟨rest, before, same⟩ := mem_ends_text.mp member
  exact ⟨⟨rest, before⟩, same⟩

theorem passes_of_mem_char {accepts : Char → Bool}
    (member : reached ∈ (char accepts).ends progress) :
    ∃ c, accepts c = true ∧ progress.cursor.Passes [c] reached.cursor ∧
      reached.captures = progress.captures := by
  obtain ⟨c, accepted, rest, before, same⟩ := mem_ends_char.mp member
  exact ⟨c, accepted, ⟨rest, before⟩, same⟩

theorem eq_of_mem_boundary (member : reached ∈ boundary.ends progress) : reached = progress := by
  rw [ends] at member
  split at member
  · exact List.mem_singleton.mp member
  · cases member

/-- What holds of no step and of one step, and of steps in a row, holds of a repetition. -/
theorem repeatEnds_induction (related : Progress → Progress → Prop)
    {step : Progress → List Progress} (none : ∀ progress, related progress progress)
    (row : ∀ progress middle reached, related progress middle → related middle reached →
      related progress reached)
    (once : ∀ progress, ∀ reached ∈ step progress, related progress reached)
    {fuel : Nat} (member : reached ∈ repeatEnds step fuel progress) : related progress reached := by
  induction fuel generalizing progress with
  | zero => exact List.mem_singleton.mp member ▸ none _
  | succ fuel ih =>
      rcases List.mem_append.mp member with more | stop
      · obtain ⟨middle, first, again⟩ := List.mem_flatMap.mp more
        exact row _ _ _ (once progress middle first) (ih again)
      · exact List.mem_singleton.mp stop ▸ none _

/-- Every way of a pattern leads forward. -/
theorem leads_of_mem_ends (member : reached ∈ pattern.ends progress) : progress.Leads reached := by
  induction pattern generalizing progress reached with
  | char accepts =>
      obtain ⟨c, _, passed, same⟩ := passes_of_mem_char member
      exact .of_passes passed same
  | text piece =>
      obtain ⟨passed, same⟩ := passes_of_mem_text member
      exact .of_passes passed same
  | run accepts =>
      obtain ⟨taken, _, passed, same⟩ := passes_of_mem_run member
      exact .of_passes passed same
  | boundary => exact eq_of_mem_boundary member ▸ .refl _
  | seq first second ihFirst ihSecond =>
      obtain ⟨middle, start, rest⟩ := mem_ends_seq.mp member
      exact (ihFirst start).trans (ihSecond rest)
  | either first second ihFirst ihSecond =>
      rcases mem_ends_either.mp member with left | right
      · exact ihFirst left
      · exact ihSecond right
  | optional body ih =>
      rcases mem_ends_optional.mp member with inside | rfl
      · exact ih inside
      · exact .refl _
  | many body ih =>
      exact repeatEnds_induction Progress.Leads .refl (fun _ _ _ => .trans) (fun _ _ => ih) member
  | capture body ih =>
      obtain ⟨inner, inside, rfl⟩ := List.mem_map.mp member
      obtain ⟨forward, made, captures, within⟩ := ih inside
      refine ⟨forward, ⟨progress.cursor, inner.cursor⟩ :: made, congrArg (List.cons _) captures, ?_⟩
      exact List.forall_mem_cons.mpr ⟨⟨.refl _, forward, .refl _⟩, within⟩

/-- What is left is an end of what was left. -/
theorem suffix_of_mem_ends (member : reached ∈ pattern.ends progress) :
    reached.cursor.rest <:+ progress.cursor.rest := by
  obtain ⟨piece, passed⟩ := (leads_of_mem_ends member).forward
  exact passed.1 ▸ List.suffix_append piece _

end Pattern

end AssetAudit
