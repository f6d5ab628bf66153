import AssetAudit.Proofs.Pattern.Enclosure
import AssetAudit.Proofs.Pattern.Finding

namespace AssetAudit.Pattern

/-! What can be computed from a pattern about all of its ways: how many captures they make, how much
they take at least, and which character they never take. -/

/-- The number of captures that every way makes, if all make the same. -/
def captureCount? : Pattern → Option Nat
  | char _ | text _ | run _ | boundary => some 0
  | seq first second =>
      match first.captureCount?, second.captureCount? with
      | some count, some more => some (count + more)
      | _, _ => none
  | either first second =>
      if first.captureCount? = second.captureCount? then first.captureCount? else none
  | optional body | many body => if body.captureCount? = some 0 then some 0 else none
  | capture body => body.captureCount?.map (· + 1)

/-- So many characters are taken at least. -/
def leastLength : Pattern → Nat
  | char _ => 1
  | text piece => piece.toList.length
  | run _ | boundary | optional _ | many _ => 0
  | seq first second => first.leastLength + second.leastLength
  | either first second => min first.leastLength second.leastLength
  | capture body => body.leastLength

/-- No part of the pattern accepts this character. -/
def avoids (c : Char) : Pattern → Bool
  | char accepts | run accepts => !accepts c
  | text piece => !piece.toList.contains c
  | boundary => true
  | seq first second | either first second => first.avoids c && second.avoids c
  | optional body | many body | capture body => body.avoids c

variable {pattern body last : Pattern} {parts : List Pattern} {count : Nat} {c : Char}

/-- Every way makes this many captures, whichever they are. -/
abbrev CapturesExactly (pattern : Pattern) (count : Nat) : Prop :=
  pattern.Captures count fun _ => True

theorem captures_same (none : body.CapturesExactly 0) {progress reached : Progress}
    (member : reached ∈ body.ends progress) : reached.captures = progress.captures := by
  obtain ⟨made, same, number, _⟩ := none progress reached member
  rw [same, List.eq_nil_of_length_eq_zero number, List.nil_append]

theorem captures_none (same : ∀ progress, ∀ reached ∈ pattern.ends progress,
    reached.captures = progress.captures) : pattern.CapturesExactly 0 :=
  fun progress reached member =>
    ⟨[], same progress reached member, rfl, fun _ none => absurd none List.not_mem_nil⟩

theorem capturesExactly_of_count (counted : pattern.captureCount? = some count) :
    pattern.CapturesExactly count := by
  induction pattern generalizing count with
  | char accepts | text piece | run accepts | boundary =>
      obtain rfl := Option.some.inj counted
      exact plain_captures rfl
  | seq first second ihFirst ihSecond =>
      simp only [captureCount?] at counted
      split at counted
      · rename_i here there
        obtain rfl := Option.some.inj counted
        exact (ihFirst here).seq (ihSecond there)
      · cases counted
  | either first second ihFirst ihSecond =>
      simp only [captureCount?] at counted
      split at counted
      · rename_i same
        intro progress reached member
        rcases mem_ends_either.mp member with left | right
        · exact ihFirst counted progress reached left
        · exact ihSecond (same ▸ counted) progress reached right
      · cases counted
  | optional body ih =>
      simp only [captureCount?] at counted
      split at counted
      · rename_i plain
        obtain rfl := Option.some.inj counted
        refine captures_none fun progress reached member => ?_
        rcases mem_ends_optional.mp member with inside | rfl
        · exact captures_same (ih plain) inside
        · rfl
      · cases counted
  | many body ih =>
      simp only [captureCount?] at counted
      split at counted
      · rename_i plain
        obtain rfl := Option.some.inj counted
        refine captures_none fun progress reached member => ?_
        exact repeatEnds_induction (fun progress reached => reached.captures = progress.captures)
          (fun _ => rfl) (fun _ _ _ before after => after.trans before)
          (fun _ _ => captures_same (ih plain)) member
      · cases counted
  | capture body ih =>
      obtain ⟨inner, here, rfl⟩ := Option.map_eq_some_iff.mp counted
      intro progress reached member
      obtain ⟨reached, inside, rfl⟩ := List.mem_map.mp member
      obtain ⟨made, same, number, _⟩ := ih here progress reached inside
      exact ⟨⟨progress.cursor, reached.cursor⟩ :: made, congrArg (List.cons _) same,
        congrArg (· + 1) number, fun _ _ => trivial⟩

theorem takes_of_avoids (avoids : pattern.avoids c = true) :
    pattern.Takes (· ≠ c) pattern.leastLength := by
  have other {accepts : Char → Bool} (rejected : (!accepts c) = true) (d : Char)
      (accepted : accepts d = true) : d ≠ c := by
    rintro rfl
    rw [accepted] at rejected
    cases rejected
  have reached_self {progress : Progress} : ∃ taken, progress.cursor.Passes taken progress.cursor ∧
      (∀ d ∈ taken, d ≠ c) ∧ 0 ≤ taken.length :=
    ⟨[], .nil _, by simp, Nat.zero_le _⟩
  induction pattern with
  | char accepts => exact char_takes (other avoids)
  | text piece =>
      refine text_takes fun d member same => ?_
      simp [Pattern.avoids, ← same, member] at avoids
  | run accepts => exact run_takes (other avoids)
  | boundary =>
      intro progress reached member
      rw [eq_of_mem_boundary member]
      exact reached_self
  | seq first second ihFirst ihSecond =>
      obtain ⟨here, there⟩ := Bool.and_eq_true_iff.mp avoids
      exact (ihFirst here).seq (ihSecond there)
  | either first second ihFirst ihSecond =>
      obtain ⟨here, there⟩ := Bool.and_eq_true_iff.mp avoids
      exact ((ihFirst here).mono (Nat.min_le_left _ _)).either
        ((ihSecond there).mono (Nat.min_le_right _ _))
  | optional body ih =>
      intro progress reached member
      rcases mem_ends_optional.mp member with inside | rfl
      · exact (ih avoids).mono (Nat.zero_le _) progress reached inside
      · exact reached_self
  | many body ih =>
      intro progress reached member
      refine repeatEnds_induction (fun progress reached => ∃ taken,
        progress.cursor.Passes taken reached.cursor ∧ (∀ d ∈ taken, d ≠ c) ∧ 0 ≤ taken.length)
        (fun _ => reached_self) ?_ (fun progress reached inside =>
          (ih avoids).mono (Nat.zero_le _) progress reached inside) member
      rintro _ _ _ ⟨taken, passed, all, _⟩ ⟨next, further, others, _⟩
      exact ⟨taken ++ next, passed.append further, List.forall_mem_append.mpr ⟨all, others⟩,
        Nat.zero_le _⟩
  | capture body ih =>
      intro progress reached member
      obtain ⟨inner, inside, rfl⟩ := List.mem_map.mp member
      exact ih avoids progress inner inside

/-- A match whose second capture is a run between two texts at its end. -/
theorem enclosed_of_mem_findAll {opener closer : String} {accepts : Char → Bool}
    {whole : List Char} {found : Match} (nonempty : parts ≠ [])
    (counted : (sequence parts).captureCount? = some 1)
    (member : found ∈ (sequence (parts ++
      [sequence [text opener, capture (run accepts), text closer]])).findAll whole) :
    found.start.text = whole ∧ (∀ c ∈ found.captured 1, accepts c = true) ∧
      ∃ middle ∈ (sequence parts).ends ⟨found.start, []⟩,
        middle.cursor.Passes (opener.toList ++ (found.captured 1 ++ closer.toList)) found.stop := by
  obtain ⟨inText, reached, way, stop, captures⟩ := mem_findAll member
  rw [ends_concat nonempty] at way
  obtain ⟨middle, header, further⟩ := mem_ends_seq.mp way
  obtain ⟨opened, opening, rest⟩ := mem_ends_seq.mp further
  obtain ⟨captured, inside, closing⟩ := mem_ends_seq.mp rest
  obtain ⟨inner, run, rfl⟩ := List.mem_map.mp inside
  obtain ⟨taken, accepted, passed, same⟩ := passes_of_mem_run run
  obtain ⟨made, kept, number, _⟩ := capturesExactly_of_count counted _ _ header
  obtain ⟨openerPassed, openerSame⟩ := passes_of_mem_text opening
  obtain ⟨closerPassed, closerSame⟩ := passes_of_mem_text closing
  obtain ⟨name, rfl⟩ := List.length_eq_one_iff.mp number
  have second : found.captured 1 = taken := by
    rw [Match.captured, captures, closerSame, same, openerSame, kept]
    exact Capture.chars_of_passes passed
  rw [second]
  exact ⟨inText, accepted, middle, header,
    openerPassed.append (passed.append (stop ▸ closerPassed))⟩

end AssetAudit.Pattern
