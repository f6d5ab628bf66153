import AssetAudit.Proofs.Pattern.Traversal

namespace AssetAudit

/-! The matches that a search through a text finds.  Each is a way of the pattern from its place in
the text, and they come in the order of their places. -/

/-- A place in a text is known by its offset. -/
theorem Cursor.eq_of_offset {cursor other : Cursor} (sameText : cursor.text = other.text)
    (sameOffset : cursor.offset = other.offset) : cursor = other := by
  have sameLength : cursor.before.reverse.length = other.before.reverse.length := by
    rw [List.length_reverse, List.length_reverse]
    exact sameOffset
  obtain ⟨reversed, sameRest⟩ := List.append_inj sameText sameLength
  cases cursor
  cases other
  rw [Cursor.mk.injEq]
  exact ⟨List.reverse_inj.mp reversed, sameRest⟩

namespace Pattern

variable {pattern : Pattern} {text before : List Char} {skip : Nat} {found : Match}

theorem matchAt?_eq_some {cursor : Cursor} (matched : pattern.matchAt? cursor = some found) :
    ∃ reached ∈ pattern.ends ⟨cursor, []⟩,
      found = ⟨cursor, reached.cursor, reached.captures.reverse⟩ := by
  obtain ⟨reached, preferred, rfl⟩ := Option.map_eq_some_iff.mp matched
  exact ⟨reached, List.mem_of_head? preferred, rfl⟩

theorem mem_findAllFrom (member : found ∈ pattern.findAllFrom skip before text) :
    before.length + skip ≤ found.offset ∧ found.start.text = before.reverse ++ text ∧
      pattern.matchAt? found.start = some found := by
  induction text generalizing skip before with
  | nil => cases member
  | cons c text ih =>
      -- the search goes on behind `c`, whatever it skips there
      have behind {more : Nat} (among : found ∈ pattern.findAllFrom more (c :: before) text) :
          before.length + (more + 1) ≤ found.offset ∧
            found.start.text = before.reverse ++ c :: text ∧
              pattern.matchAt? found.start = some found := by
        obtain ⟨offset, same, matched⟩ := ih among
        rw [List.length_cons, Nat.add_right_comm] at offset
        exact ⟨offset, same.trans (by simp), matched⟩
      cases skip with
      | succ skip => exact behind member
      | zero =>
          rw [findAllFrom] at member
          split at member
          · exact (behind member).imp_left Nat.le_of_succ_le
          · rename_i here matched
            rcases List.mem_cons.mp member with rfl | later
            · obtain ⟨reached, _, rfl⟩ := matchAt?_eq_some matched
              exact ⟨Nat.le_refl _, rfl, matched⟩
            · obtain ⟨offset, same⟩ := behind later
              exact ⟨by omega, same⟩

theorem findAllFrom_ascending :
    (pattern.findAllFrom skip before text).Pairwise fun first second =>
      first.offset < second.offset := by
  induction text generalizing skip before with
  | nil => exact List.Pairwise.nil
  | cons c text ih =>
      cases skip with
      | succ skip => exact ih
      | zero =>
          rw [findAllFrom]
          split
          · exact ih
          · rename_i here matched
            refine List.pairwise_cons.mpr ⟨fun second later => ?_, ih⟩
            obtain ⟨behind, _⟩ := mem_findAllFrom later
            obtain ⟨reached, _, rfl⟩ := matchAt?_eq_some matched
            rw [List.length_cons] at behind
            show before.length < second.offset
            omega

/-- A match is a way of the pattern from its place in the text. -/
theorem mem_findAll (member : found ∈ pattern.findAll text) :
    found.start.text = text ∧ ∃ reached ∈ pattern.ends ⟨found.start, []⟩,
      found.stop = reached.cursor ∧ found.captures = reached.captures.reverse := by
  obtain ⟨_, same, matched⟩ := mem_findAllFrom member
  obtain ⟨reached, way, made⟩ := matchAt?_eq_some matched
  exact ⟨same, reached, way, congrArg Match.stop made, congrArg Match.captures made⟩

theorem findAll_ascending (pattern : Pattern) (text : List Char) :
    (pattern.findAll text).Pairwise fun first second => first.offset < second.offset :=
  findAllFrom_ascending

/-- The captures of a match lie within it. -/
theorem liesBetween_of_mem_captures (member : found ∈ pattern.findAll text) {capture : Capture}
    (among : capture ∈ found.captures) : capture.LiesBetween found.start found.stop := by
  obtain ⟨_, reached, way, stop, captures⟩ := mem_findAll member
  obtain ⟨_, made, same, within⟩ := leads_of_mem_ends way
  rw [List.append_nil] at same
  rw [captures, List.mem_reverse, same] at among
  exact stop ▸ within capture among

theorem captured_subset (member : found ∈ pattern.findAll text) (number : Nat) :
    found.captured number ⊆ text := by
  rw [Match.captured]
  cases known : found.captures[number]? with
  | none => exact List.nil_subset _
  | some capture =>
      have lies := liesBetween_of_mem_captures member (List.mem_of_getElem? known)
      have start : capture.start.text = text := lies.ahead.text.trans (mem_findAll member).1
      intro c among
      rw [← start, Cursor.text, lies.passes.1]
      exact List.mem_append_right _ (List.mem_append_left _ among)

end Pattern

end AssetAudit
