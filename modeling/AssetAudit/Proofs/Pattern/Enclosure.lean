import AssetAudit.Proofs.Pattern.Traversal

namespace AssetAudit

/-! Captures between delimiters.  A capture is enclosed when the part in front of it ends with the
one delimiter, the part behind it begins with the other, and it takes none of the latter itself. -/

/-- A capture of some length right behind one character and right in front of another, which it
does not hold. -/
structure Capture.IsEnclosed (opening closing : Char) (least : Nat) (capture : Capture) : Prop where
  opened : capture.start.before.head? = some opening
  closed : capture.stop.rest.head? = some closing
  plain : closing ∉ capture.chars
  long : least ≤ capture.chars.length

theorem Capture.IsEnclosed.mono {opening closing : Char} {least more : Nat} {capture : Capture}
    (enclosed : capture.IsEnclosed opening closing more) (less : least ≤ more) :
    capture.IsEnclosed opening closing least :=
  { enclosed with long := Nat.le_trans less enclosed.long }

namespace Pattern

/-- No part of the pattern is a capture. -/
def isPlain : Pattern → Bool
  | char _ | text _ | run _ | boundary => true
  | seq first second | either first second => first.isPlain && second.isPlain
  | optional body | many body => body.isPlain
  | capture _ => false

/-- A pattern without the plain parts that it begins with, save for the one right in front of a
capture. -/
def heart : Pattern → Pattern
  | seq first (seq (capture body) rest) => seq first (seq (capture body) rest)
  | seq first rest => if first.isPlain then heart rest else seq first rest
  | pattern => pattern

/-- Every way of the pattern makes this many captures, all of which are good. -/
def Captures (pattern : Pattern) (count : Nat) (good : Capture → Prop) : Prop :=
  ∀ progress, ∀ reached ∈ pattern.ends progress, ∃ made,
    reached.captures = made ++ progress.captures ∧ made.length = count ∧
      ∀ capture ∈ made, good capture

/-- Every way of the pattern takes at least so many characters, all of which are accepted. -/
def Takes (pattern : Pattern) (accepted : Char → Prop) (least : Nat) : Prop :=
  ∀ progress, ∀ reached ∈ pattern.ends progress, ∃ taken,
    progress.cursor.Passes taken reached.cursor ∧ (∀ c ∈ taken, accepted c) ∧ least ≤ taken.length

/-- Every way of the pattern begins at this character. -/
def StartsWith (pattern : Pattern) (c : Char) : Prop :=
  ∀ progress, ∀ reached ∈ pattern.ends progress, progress.cursor.rest.head? = some c

/-- Every way of the pattern ends behind this character. -/
def EndsWith (pattern : Pattern) (c : Char) : Prop :=
  ∀ progress, ∀ reached ∈ pattern.ends progress, reached.cursor.before.head? = some c

theorem sequence_cons (first : Pattern) {rest : List Pattern} (nonempty : rest ≠ []) :
    sequence (first :: rest) = seq first (sequence rest) := by
  obtain ⟨second, others, rfl⟩ := List.exists_cons_of_ne_nil nonempty
  rfl

/-- The parts in front of the last one may be taken together. -/
theorem ends_concat {parts : List Pattern} (nonempty : parts ≠ []) (last : Pattern) :
    (sequence (parts ++ [last])).ends = (seq (sequence parts) last).ends := by
  induction parts with
  | nil => exact absurd rfl nonempty
  | cons first parts ih =>
      cases parts with
      | nil => rfl
      | cons second others =>
          funext progress
          rw [List.cons_append, sequence_cons first (by simp), sequence_cons first (by simp), ends,
            ih (by simp), ends, ends, List.flatMap_assoc]
          rfl

section Delimiters

variable {c : Char} {accepts : Char → Bool} {first second : Pattern} {parts : List Pattern}

theorem text_startsWith {piece : String} (start : piece.toList.head? = some c) :
    (text piece).StartsWith c := by
  intro progress reached member
  rw [(passes_of_mem_text member).1.1, List.head?_append, start]
  rfl

theorem text_endsWith {piece : String} (final : piece.toList.getLast? = some c) :
    (text piece).EndsWith c := by
  intro progress reached member
  rw [(passes_of_mem_text member).1.2, List.head?_append, List.head?_reverse, final]
  rfl

theorem char_startsWith (only : ∀ d, accepts d = true → d = c) : (char accepts).StartsWith c := by
  intro progress reached member
  obtain ⟨d, accepted, passed, _⟩ := passes_of_mem_char member
  rw [passed.1, only d accepted]
  rfl

theorem char_endsWith (only : ∀ d, accepts d = true → d = c) : (char accepts).EndsWith c := by
  intro progress reached member
  obtain ⟨d, accepted, passed, _⟩ := passes_of_mem_char member
  rw [passed.2, only d accepted]
  rfl

theorem StartsWith.seq (starts : first.StartsWith c) : (seq first second).StartsWith c := by
  intro progress reached member
  obtain ⟨middle, start, _⟩ := mem_ends_seq.mp member
  exact starts progress middle start

theorem EndsWith.seq (ends : second.EndsWith c) : (seq first second).EndsWith c := by
  intro progress reached member
  obtain ⟨middle, _, rest⟩ := mem_ends_seq.mp member
  exact ends middle reached rest

theorem StartsWith.sequence (parts : List Pattern) (starts : first.StartsWith c) :
    (sequence (first :: parts)).StartsWith c := by
  cases parts with
  | nil => exact starts
  | cons second others => exact starts.seq

theorem EndsWith.sequence (parts : List Pattern) (ends : second.EndsWith c) :
    (sequence (parts ++ [second])).EndsWith c := by
  induction parts with
  | nil => exact ends
  | cons first parts ih =>
      rw [List.cons_append, sequence_cons first (by simp)]
      exact ih.seq

end Delimiters

section Takes

variable {accepted : Char → Prop} {accepts : Char → Bool} {first second : Pattern}
  {parts : List Pattern} {least more : Nat}

theorem Takes.mono {pattern : Pattern} (takes : pattern.Takes accepted more) (less : least ≤ more) :
    pattern.Takes accepted least := by
  intro progress reached member
  obtain ⟨taken, passed, all, long⟩ := takes progress reached member
  exact ⟨taken, passed, all, Nat.le_trans less long⟩

theorem text_takes {piece : String} (all : ∀ c ∈ piece.toList, accepted c) :
    (text piece).Takes accepted piece.toList.length :=
  fun _ _ member => ⟨piece.toList, (passes_of_mem_text member).1, all, Nat.le_refl _⟩

theorem char_takes (good : ∀ c, accepts c = true → accepted c) :
    (char accepts).Takes accepted 1 := by
  intro progress reached member
  obtain ⟨c, taken, passed, _⟩ := passes_of_mem_char member
  exact ⟨[c], passed, List.forall_mem_singleton.mpr (good c taken), Nat.le_refl 1⟩

theorem run_takes (good : ∀ c, accepts c = true → accepted c) : (run accepts).Takes accepted 0 := by
  intro progress reached member
  obtain ⟨taken, all, passed, _⟩ := passes_of_mem_run member
  exact ⟨taken, passed, fun c among => good c (all c among), Nat.zero_le _⟩

theorem Takes.seq (takes : first.Takes accepted least) (further : second.Takes accepted more) :
    (seq first second).Takes accepted (least + more) := by
  intro progress reached member
  obtain ⟨middle, start, rest⟩ := mem_ends_seq.mp member
  obtain ⟨taken, passed, all, long⟩ := takes progress middle start
  obtain ⟨next, beyond, others, longer⟩ := further middle reached rest
  refine ⟨taken ++ next, passed.append beyond, List.forall_mem_append.mpr ⟨all, others⟩, ?_⟩
  rw [List.length_append]
  exact Nat.add_le_add long longer

theorem Takes.either (left : first.Takes accepted least) (right : second.Takes accepted least) :
    (either first second).Takes accepted least := by
  intro progress reached member
  rcases mem_ends_either.mp member with here | there
  · exact left progress reached here
  · exact right progress reached there

end Takes

section Captures

variable {good : Capture → Prop} {first second pattern : Pattern} {count more : Nat}

theorem captures_of_isPlain (plain : pattern.isPlain = true) {progress reached : Progress}
    (member : reached ∈ pattern.ends progress) : reached.captures = progress.captures := by
  induction pattern generalizing progress reached with
  | char accepts =>
      obtain ⟨_, _, _, same⟩ := passes_of_mem_char member
      exact same
  | text piece => exact (passes_of_mem_text member).2
  | run accepts =>
      obtain ⟨_, _, _, same⟩ := passes_of_mem_run member
      exact same
  | boundary => rw [eq_of_mem_boundary member]
  | seq first second ihFirst ihSecond =>
      obtain ⟨plainFirst, plainSecond⟩ := Bool.and_eq_true_iff.mp plain
      obtain ⟨middle, start, rest⟩ := mem_ends_seq.mp member
      exact (ihSecond plainSecond rest).trans (ihFirst plainFirst start)
  | either first second ihFirst ihSecond =>
      obtain ⟨plainFirst, plainSecond⟩ := Bool.and_eq_true_iff.mp plain
      rcases mem_ends_either.mp member with left | right
      · exact ihFirst plainFirst left
      · exact ihSecond plainSecond right
  | optional body ih =>
      rcases mem_ends_optional.mp member with inside | rfl
      · exact ih plain inside
      · rfl
  | many body ih =>
      exact repeatEnds_induction (fun progress reached => reached.captures = progress.captures)
        (fun _ => rfl) (fun _ _ _ before after => after.trans before) (fun _ _ => ih plain) member
  | capture body ih => cases plain

theorem plain_captures (plain : pattern.isPlain = true) : pattern.Captures 0 good :=
  fun _ _ member =>
    ⟨[], captures_of_isPlain plain member, rfl, fun _ none => absurd none List.not_mem_nil⟩

theorem Captures.mono {better : Capture → Prop} (captures : pattern.Captures count better)
    (enough : ∀ capture, better capture → good capture) : pattern.Captures count good := by
  intro progress reached member
  obtain ⟨made, same, number, all⟩ := captures progress reached member
  exact ⟨made, same, number, fun capture among => enough capture (all capture among)⟩

theorem Captures.seq (captures : first.Captures count good) (further : second.Captures more good) :
    (seq first second).Captures (count + more) good := by
  intro progress reached member
  obtain ⟨middle, start, rest⟩ := mem_ends_seq.mp member
  obtain ⟨made, same, number, all⟩ := captures progress middle start
  obtain ⟨others, further, otherNumber, otherAll⟩ := further middle reached rest
  refine ⟨others ++ made, ?_, ?_, List.forall_mem_append.mpr ⟨otherAll, all⟩⟩
  · rw [further, same, List.append_assoc]
  · rw [List.length_append, otherNumber, number, Nat.add_comm]

/-- The plain parts in front make no captures of their own. -/
theorem Captures.of_heart (captures : pattern.heart.Captures count good) :
    pattern.Captures count good := by
  fun_induction heart pattern with
  | case1 => exact captures
  | case2 first rest _ plain ih =>
      rw [← Nat.zero_add count]
      exact (plain_captures plain).seq (ih captures)
  | case3 => exact captures
  | case4 => exact captures

/-- A capture between a plain part that ends with one delimiter and a part that begins with the
other one. -/
theorem enclosed_captures {opener body rest : Pattern} {opening closing : Char} {least : Nat}
    (plainOpener : opener.isPlain = true) (plainBody : body.isPlain = true)
    (opens : opener.EndsWith opening) (takes : body.Takes (· ≠ closing) least)
    (closes : rest.StartsWith closing)
    (captures : rest.Captures count (Capture.IsEnclosed opening closing least)) :
    (seq opener (seq (capture body) rest)).Captures (count + 1)
      (Capture.IsEnclosed opening closing least) := by
  intro progress reached member
  obtain ⟨opened, start, further⟩ := mem_ends_seq.mp member
  obtain ⟨captured, inside, last⟩ := mem_ends_seq.mp further
  obtain ⟨inner, within, rfl⟩ := List.mem_map.mp inside
  obtain ⟨taken, passed, other, long⟩ := takes opened inner within
  obtain ⟨made, same, number, all⟩ := captures _ reached last
  have closed := closes _ reached last
  have chars : Capture.chars ⟨opened.cursor, inner.cursor⟩ = taken :=
    Capture.chars_of_passes passed
  have enclosed : Capture.IsEnclosed opening closing least ⟨opened.cursor, inner.cursor⟩ :=
    { opened := opens progress opened start
      closed := closed
      plain := fun among => other closing (chars ▸ among) rfl
      long := chars ▸ long }
  refine ⟨made ++ [⟨opened.cursor, inner.cursor⟩], ?_, ?_,
    List.forall_mem_append.mpr ⟨all, List.forall_mem_singleton.mpr enclosed⟩⟩
  · rw [same, captures_of_isPlain plainBody within, captures_of_isPlain plainOpener start,
      List.append_assoc]
    rfl
  · rw [List.length_append, number, List.length_singleton]

end Captures

end Pattern

end AssetAudit
