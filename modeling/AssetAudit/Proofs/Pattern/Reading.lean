import AssetAudit.Proofs.Pattern.Exclusion
import AssetAudit.Proofs.Pattern.Preference

namespace AssetAudit.Pattern

/-! What a pattern reads of a text that was written for it.  The texts of the parts of a sequence,
one after the other, are the text of the whole. -/

/-- In front of this rest, the pattern prefers to take this text, with these captured pieces. -/
def Reads (pattern : Pattern) (text rest : List Char) (pieces : List (List Char)) : Prop :=
  ∀ before captures, ∃ made,
    pattern.Prefers ⟨⟨before, text ++ rest⟩, captures⟩
        ⟨⟨text.reverse ++ before, rest⟩, made ++ captures⟩ ∧
      made.reverse.map Capture.chars = pieces

/-- The pattern has no way in front of this rest. -/
def Rejects (pattern : Pattern) (rest : List Char) : Prop :=
  ∀ before captures, pattern.ends ⟨⟨before, rest⟩, captures⟩ = []

variable {pattern body first second : Pattern} {accepts : Char → Bool}
  {text next rest taken : List Char} {pieces others : List (List Char)}

theorem Needs.rejects {holds : List Char → Prop} (needs : pattern.Needs holds)
    (lacks : ¬ holds rest) : pattern.Rejects rest := fun _ _ =>
  List.eq_nil_iff_forall_not_mem.mpr fun reached member => lacks (needs _ reached member)

theorem Rejects.matchAt? (rejects : pattern.Rejects rest) (before : List Char) :
    pattern.matchAt? ⟨before, rest⟩ = none := by
  rw [Pattern.matchAt?, rejects]
  rfl

theorem text_reads (piece : String) (rest : List Char) :
    (Pattern.text piece).Reads piece.toList rest [] :=
  fun _ _ => ⟨[], prefers_text piece rest, rfl⟩

theorem char_reads {c : Char} (accepted : accepts c = true) (rest : List Char) :
    (char accepts).Reads [c] rest [] :=
  fun _ _ => ⟨[], prefers_char accepted rest, rfl⟩

theorem run_reads (accepted : ∀ c ∈ taken, accepts c = true)
    (stops : ∀ c ∈ rest.head?, accepts c = false) : (run accepts).Reads taken rest [] :=
  fun _ _ => ⟨[], prefers_run accepted stops, rfl⟩

theorem someOf_reads (nonempty : taken ≠ []) (accepted : ∀ c ∈ taken, accepts c = true)
    (stops : ∀ c ∈ rest.head?, accepts c = false) : (someOf accepts).Reads taken rest [] :=
  fun _ _ => ⟨[], prefers_someOf nonempty accepted stops, rfl⟩

theorem Reads.seq (start : first.Reads text (next ++ rest) pieces)
    (further : second.Reads next rest others) :
    (seq first second).Reads (text ++ next) rest (pieces ++ others) := by
  intro before captures
  obtain ⟨made, prefers, captured⟩ := start before captures
  obtain ⟨more, goesOn, alsoCaptured⟩ := further (text.reverse ++ before) (made ++ captures)
  refine ⟨more ++ made, ?_, ?_⟩
  · rw [List.reverse_append, List.append_assoc, List.append_assoc, List.append_assoc]
    exact prefers_seq prefers goesOn
  · rw [List.reverse_append, List.map_append, captured, alsoCaptured]

theorem Reads.concat {parts : List Pattern} {last : Pattern} (nonempty : parts ≠ [])
    (start : (sequence parts).Reads text (next ++ rest) pieces)
    (further : last.Reads next rest others) :
    (sequence (parts ++ [last])).Reads (text ++ next) rest (pieces ++ others) := by
  intro before captures
  obtain ⟨made, prefers, captured⟩ := start.seq further before captures
  exact ⟨made, by rwa [Prefers, ends_concat nonempty], captured⟩

theorem either_reads (start : first.Reads text rest pieces) :
    (either first second).Reads text rest pieces := by
  intro before captures
  obtain ⟨made, prefers, captured⟩ := start before captures
  refine ⟨made, ?_, captured⟩
  rw [Prefers, ends, List.head?_append, prefers]
  rfl

theorem optional_reads (inside : body.Reads text rest pieces) :
    (optional body).Reads text rest pieces := by
  intro before captures
  obtain ⟨made, prefers, captured⟩ := inside before captures
  refine ⟨made, ?_, captured⟩
  rw [Prefers, ends, List.head?_append, prefers]
  rfl

/-- An optional part is left out where no way of it goes on. -/
theorem seq_optional_reads (reads : second.Reads text rest pieces)
    (lost : ∀ progress, progress.cursor.rest = text ++ rest →
      ∀ middle ∈ body.ends progress, second.Rejects middle.cursor.rest) :
    (seq (optional body) second).Reads text rest pieces := by
  intro before captures
  obtain ⟨made, prefers, captured⟩ := reads before captures
  refine ⟨made, ?_, captured⟩
  have none : (body.ends ⟨⟨before, text ++ rest⟩, captures⟩).flatMap second.ends = [] :=
    List.flatMap_eq_nil_iff.mpr fun middle member => lost _ rfl middle member _ _
  rw [Prefers, ends, ends, List.flatMap_append, none, List.nil_append, List.flatMap_cons,
    List.flatMap_nil, List.append_nil]
  exact prefers

theorem seq_optional_reads_of_rejects (reads : second.Reads text rest pieces)
    (rejects : body.Rejects (text ++ rest)) :
    (seq (optional body) second).Reads text rest pieces :=
  seq_optional_reads reads fun progress same middle member => by
    obtain ⟨⟨before, _⟩, captures⟩ := progress
    obtain rfl := same
    rw [rejects before captures] at member
    cases member

theorem capture_reads (inside : body.Reads text rest pieces) :
    (capture body).Reads text rest (pieces ++ [text]) := by
  intro before captures
  obtain ⟨made, prefers, captured⟩ := inside before captures
  refine ⟨⟨⟨before, text ++ rest⟩, ⟨text.reverse ++ before, rest⟩⟩ :: made,
    prefers_capture prefers, ?_⟩
  rw [List.reverse_cons, List.map_append, captured, List.map_singleton, capture_chars]

/-- A repetition of single characters goes on to the first place that its body rejects. -/
theorem many_reads (single : ∀ c ∈ taken, ∀ rest, body.Reads [c] rest [])
    (stops : body.Rejects rest) : (many body).Reads taken rest [] := by
  suffices fueled : ∀ fuel, taken.length ≤ fuel → ∀ before captures,
      (repeatEnds body.ends fuel ⟨⟨before, taken ++ rest⟩, captures⟩).head? =
        some ⟨⟨taken.reverse ++ before, rest⟩, captures⟩ by
    intro before captures
    exact ⟨[], fueled _ (by simp) before captures, rfl⟩
  induction taken with
  | nil =>
      intro fuel _ before captures
      cases fuel with
      | zero => rfl
      | succ fuel =>
          rw [repeatEnds, List.nil_append, stops]
          rfl
  | cons c taken ih =>
      intro fuel enough before captures
      obtain ⟨fuel, rfl⟩ := Nat.exists_eq_succ_of_ne_zero (Nat.ne_zero_of_lt enough)
      obtain ⟨made, prefers, none⟩ := single c (by simp) (taken ++ rest) before captures
      obtain rfl : made = [] := by simpa using none
      obtain ⟨ways, cut⟩ := List.head?_eq_some_iff.mp prefers
      have further := ih (fun d member => single d (by simp [member])) fuel
        (Nat.le_of_succ_le_succ enough) (c :: before) captures
      rw [List.singleton_append, List.reverse_singleton, List.singleton_append] at cut
      rw [repeatEnds, List.cons_append, cut, List.flatMap_cons, List.append_assoc,
        List.head?_append, List.nil_append, further, List.reverse_cons, List.append_assoc]
      rfl

/-- A search finds what the pattern reads, and goes on behind it. -/
theorem Reads.findAllFrom (reads : pattern.Reads text rest pieces) (nonempty : text ≠ [])
    (before : List Char) : ∃ found, found.offset = before.length ∧
      found.captures.map Capture.chars = pieces ∧
      pattern.findAllFrom 0 before (text ++ rest) =
        found :: pattern.findAllFrom 0 (text.reverse ++ before) rest := by
  obtain ⟨made, prefers, captured⟩ := reads before []
  obtain ⟨c, consumed, rfl⟩ := List.exists_cons_of_ne_nil nonempty
  have matched := matchAt?_of_prefers prefers
  rw [List.cons_append] at matched ⊢
  rw [findAllFrom_matched matched rfl, List.reverse_cons, List.append_assoc]
  exact ⟨_, rfl, by simpa using captured, rfl⟩

end AssetAudit.Pattern
