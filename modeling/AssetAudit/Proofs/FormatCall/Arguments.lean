import AssetAudit.FormatCall
import AssetAudit.Proofs.Text.Pieces
import AssetAudit.Proofs.Text.Trimming
import Mathlib.Data.List.Infix

namespace AssetAudit

/-! Arguments that are joined with commas are found again, one by one.  The level of nesting is
carried from one to the next, so a comma cuts where as many brackets of all kinds are closed as
opened in front of it. -/

namespace FormatCall

/-- How many more brackets a text opens than it closes, all kinds together. -/
def level (text : List Char) : Int := text.foldl (fun level c => levelAfter c level) 0

/-- A text that stands for one argument in a list: it is trimmed and closes what it opens, and each
of its commas is inside brackets. -/
structure IsArgument (text : List Char) : Prop where
  nonempty : text ≠ []
  trimmed : Text.strip text = text
  balanced : level text = 0
  commasInside : ∀ before after, text = before ++ ',' :: after → level before ≠ 0

/-- What is in front of a comma is one of the beginnings of a text. -/
theorem forall_before_comma_iff {text : List Char} {holds : List Char → Prop} :
    (∀ before ∈ text.inits, before ++ [','] <+: text → holds before) ↔
      ∀ before after, text = before ++ ',' :: after → holds before := by
  constructor
  · intro checked before after cut
    exact checked before ((List.mem_inits _ _).mpr ⟨',' :: after, cut.symm⟩)
      ⟨after, by simp [cut]⟩
  · intro every before _ start
    obtain ⟨after, cut⟩ := start
    exact every before after (by simp [← cut])

instance : DecidablePred IsArgument := fun text =>
  decidable_of_iff
    (text ≠ [] ∧ Text.strip text = text ∧ level text = 0 ∧
      ∀ before ∈ text.inits, before ++ [','] <+: text → level before ≠ 0) <| by
    rw [forall_before_comma_iff]
    constructor
    · intro checked
      obtain ⟨nonempty, trimmed, balanced, inside⟩ := checked
      exact ⟨nonempty, trimmed, balanced, inside⟩
    · intro isArgument
      exact ⟨isArgument.nonempty, isArgument.trimmed, isArgument.balanced, isArgument.commasInside⟩

theorem levelAfter_add (c : Char) (start level : Int) :
    levelAfter c (start + level) = start + levelAfter c level := by
  unfold levelAfter
  split
  · omega
  · split <;> omega

theorem level_cons (c : Char) (text : List Char) :
    level (c :: text) = levelAfter c 0 + level text := by
  suffices shifted : ∀ start : Int, text.foldl (fun level c => levelAfter c level) start =
      start + level text from shifted _
  unfold level
  induction text with
  | nil => simp
  | cons d text ih =>
      intro start
      have moved := levelAfter_add d start 0
      rw [Int.add_zero] at moved
      rw [List.foldl_cons, List.foldl_cons, ih, ih (levelAfter d 0), moved, Int.add_assoc]

theorem levelAfter_comma (level : Int) : levelAfter ',' level = level := rfl

/-- Where a comma of the text stands, behind a text that leaves this level, brackets are open. -/
def EnclosesCommas (start : Int) (text : List Char) : Prop :=
  ∀ before after, text = before ++ ',' :: after → start + level before ≠ 0

theorem enclosesCommas_nil (start : Int) : EnclosesCommas start [] := by
  intro before after cut
  exact absurd cut.symm (by simp)

theorem enclosesCommas_cons_iff {start : Int} {c : Char} {text : List Char} :
    EnclosesCommas start (c :: text) ↔
      ¬ (c = ',' ∧ start = 0) ∧ EnclosesCommas (start + levelAfter c 0) text := by
  constructor
  · intro enclosed
    refine ⟨?_, fun before after cut => ?_⟩
    · rintro ⟨rfl, rfl⟩
      exact enclosed [] text rfl rfl
    · have open' := enclosed (c :: before) after (by rw [cut, List.cons_append])
      rwa [level_cons, ← Int.add_assoc] at open'
  · intro enclosed before after cut
    obtain ⟨notHere, later⟩ := enclosed
    cases before with
    | nil =>
        obtain ⟨rfl, -⟩ := List.cons.inj cut
        intro ground
        exact notHere ⟨rfl, by simpa [level] using ground⟩
    | cons d before =>
        obtain ⟨rfl, rest⟩ := List.cons.inj cut
        rw [level_cons, ← Int.add_assoc]
        exact later before after rest

/-- Either all commas of a text are inside brackets, or there is a first one that is not. -/
theorem first_comma_outside (start : Int) (text : List Char) :
    EnclosesCommas start text ∨ ∃ front rest, text = front ++ ',' :: rest ∧
      EnclosesCommas start front ∧ start + level front = 0 := by
  induction text generalizing start with
  | nil => exact Or.inl (enclosesCommas_nil start)
  | cons c text ih =>
      by_cases here : c = ',' ∧ start = 0
      · obtain ⟨rfl, rfl⟩ := here
        exact Or.inr ⟨[], text, rfl, enclosesCommas_nil 0, rfl⟩
      · rcases ih (start + levelAfter c 0) with enclosed | ⟨front, rest, rfl, enclosed, ground⟩
        · exact Or.inl (enclosesCommas_cons_iff.mpr ⟨here, enclosed⟩)
        · refine Or.inr ⟨c :: front, rest, rfl, enclosesCommas_cons_iff.mpr ⟨here, enclosed⟩, ?_⟩
          rwa [level_cons, ← Int.add_assoc]

theorem splitArgumentsFrom_append {start : Int} {text : List Char}
    (enclosed : EnclosesCommas start text) (piece rest : List Char) :
    splitArgumentsFrom start piece (text ++ rest) =
      splitArgumentsFrom (start + level text) (text.reverse ++ piece) rest := by
  induction text generalizing start piece with
  | nil => simp [level]
  | cons c text ih =>
      obtain ⟨notHere, later⟩ := enclosesCommas_cons_iff.mp enclosed
      have next : levelAfter c start = start + levelAfter c 0 := by
        simpa using levelAfter_add c start 0
      have inside : ¬ (c = ',' ∧ levelAfter c start = 0) := by
        rintro ⟨rfl, ground⟩
        exact notHere ⟨rfl, ground⟩
      rw [List.cons_append, splitArgumentsFrom, if_neg inside, next, ih later, level_cons,
        List.reverse_cons, List.append_assoc, List.singleton_append, Int.add_assoc]

/-- The first argument ends at the first comma outside brackets. -/
theorem splitArgumentsFrom_cut {start : Int} {front : List Char}
    (enclosed : EnclosesCommas start front) (ground : start + level front = 0)
    (piece rest : List Char) :
    splitArgumentsFrom start piece (front ++ ',' :: rest) =
      Text.strip (piece.reverse ++ front) :: splitArgumentsFrom 0 [] rest := by
  rw [splitArgumentsFrom_append enclosed, ground, splitArgumentsFrom, levelAfter_comma,
    if_pos ⟨rfl, rfl⟩, List.reverse_append, List.reverse_reverse]

/-- Without such a comma there is one argument, or none where nothing is visible. -/
theorem splitArgumentsFrom_last {start : Int} {text : List Char}
    (enclosed : EnclosesCommas start text) (piece : List Char) :
    splitArgumentsFrom start piece text =
      if (Text.strip (piece.reverse ++ text)).isEmpty then []
      else [Text.strip (piece.reverse ++ text)] := by
  have whole := splitArgumentsFrom_append enclosed piece []
  rw [List.append_nil] at whole
  rw [whole, splitArgumentsFrom, List.reverse_append, List.reverse_reverse]

theorem strip_space (text : List Char) : Text.strip (' ' :: text) = Text.strip text := by
  rw [Text.strip, Text.strip, List.dropWhile_cons_of_pos (by decide)]

/-- A text that is not empty and has no white space at its ends. -/
structure IsTrimmed (text : List Char) : Prop where
  nonempty : text ≠ []
  trimmed : Text.strip text = text

instance : DecidablePred IsTrimmed := fun text =>
  decidable_of_iff (text ≠ [] ∧ Text.strip text = text)
    ⟨fun both => ⟨both.1, both.2⟩, fun trimmed => ⟨trimmed.nonempty, trimmed.trimmed⟩⟩

theorem IsTrimmed.strip_behind {argument piece : List Char} (trimmed : IsTrimmed argument)
    (blank : piece = [] ∨ piece = [' ']) : Text.strip (piece.reverse ++ argument) = argument := by
  rcases blank with rfl | rfl
  · exact trimmed.trimmed
  · exact (strip_space argument).trans trimmed.trimmed

/-- A piece that is trimmed to an argument has the commas of the argument. -/
theorem count_comma_of_strip {argument front piece : List Char}
    (blank : piece = [] ∨ piece = [' ']) (same : Text.strip (piece.reverse ++ front) = argument) :
    front.count ',' = argument.count ',' := by
  have kept := Text.count_strip (c := ',') (by decide) (piece.reverse ++ front)
  rw [same, List.count_append] at kept
  have none : piece.reverse.count ',' = 0 := by rcases blank with rfl | rfl <;> rfl
  omega

/-- Trimmed arguments that are joined with commas are found again just if all their commas are
inside brackets and all of them but the last close what they open. -/
theorem splitArgumentsFrom_joined_iff {argument : List Char} {others : List (List Char)}
    (trimmed : ∀ member ∈ argument :: others, IsTrimmed member) {piece : List Char}
    (blank : piece = [] ∨ piece = [' ']) :
    splitArgumentsFrom 0 piece ([',', ' '].intercalate (argument :: others)) =
        argument :: others ↔
      (∀ member ∈ argument :: others, EnclosesCommas 0 member) ∧
        ∀ member ∈ (argument :: others).dropLast, level member = 0 := by
  have here := trimmed argument (by simp)
  induction others generalizing argument piece with
  | nil =>
      rw [List.intercalate_singleton]
      constructor
      · intro split
        refine ⟨fun member among => ?_, by simp⟩
        obtain rfl := List.mem_singleton.mp among
        rcases first_comma_outside 0 member with enclosed | ⟨front, rest, cut, enclosed, ground⟩
        · exact enclosed
        · -- the part in front of that comma would be the whole argument
          have parts := split
          rw [cut, splitArgumentsFrom_cut enclosed ground] at parts
          have fewer := count_comma_of_strip blank (List.cons.inj parts).1
          rw [List.count_append, List.count_cons_self] at fewer
          omega
      · intro closed
        rw [splitArgumentsFrom_last (closed.1 argument (by simp)), here.strip_behind blank,
          if_neg (by simpa using here.nonempty)]
  | cons next others ih =>
      have space : [' '] = [] ∨ [' '] = [' '] := Or.inr rfl
      have later := ih (fun member among => trimmed member (List.mem_cons_of_mem argument among))
        space (trimmed next (by simp))
      have spaced : splitArgumentsFrom 0 [] (' ' :: [',', ' '].intercalate (next :: others)) =
          splitArgumentsFrom 0 [' '] ([',', ' '].intercalate (next :: others)) := by
        rw [splitArgumentsFrom]
        simp [levelAfter, opensBracket, closesBracket]
      have joined : [',', ' '].intercalate (argument :: next :: others) =
          argument ++ ',' :: ' ' :: [',', ' '].intercalate (next :: others) := by
        rw [List.intercalate_cons_cons, List.append_assoc]
        rfl
      rw [joined, List.dropLast_cons_cons, List.forall_mem_cons, List.forall_mem_cons (a := argument)]
      constructor
      · intro split
        rcases first_comma_outside 0
            (argument ++ ',' :: ' ' :: [',', ' '].intercalate (next :: others)) with
          enclosed | ⟨front, rest, cut, enclosed, ground⟩
        · -- without a comma to cut at there would be one argument at most
          rw [splitArgumentsFrom_last enclosed] at split
          split at split
          · cases split
          · exact absurd (congrArg List.length split) (by simp)
        · rw [cut, splitArgumentsFrom_cut enclosed ground] at split
          obtain ⟨first, others'⟩ := List.cons.inj split
          obtain ⟨rfl, rfl⟩ := Text.eq_of_cut (count_comma_of_strip blank first).symm cut
          rw [spaced] at others'
          obtain ⟨enclosedLater, closedLater⟩ := later.mp others'
          exact ⟨⟨enclosed, enclosedLater⟩, by simpa using ground, closedLater⟩
      · intro closed
        obtain ⟨⟨enclosed, enclosedLater⟩, ground, closedLater⟩ := closed
        rw [splitArgumentsFrom_cut enclosed (by simpa using ground), here.strip_behind blank, spaced,
          later.mpr ⟨enclosedLater, closedLater⟩]

theorem splitArguments_joined_iff {arguments : List String}
    (trimmed : ∀ argument ∈ arguments, IsTrimmed argument.toList) :
    splitArguments (String.intercalate ", " arguments) = arguments ↔
      (∀ argument ∈ arguments, EnclosesCommas 0 argument.toList) ∧
        ∀ argument ∈ arguments.dropLast, level argument.toList = 0 := by
  cases arguments with
  | nil => exact ⟨fun _ => ⟨by simp, by simp⟩, fun _ => rfl⟩
  | cons argument rest =>
      have characters : ∀ member ∈ argument.toList :: rest.map String.toList,
          IsTrimmed member := by
        simpa using trimmed
      have texts (parts : List (List Char)) : parts.map String.ofList = argument :: rest ↔
          parts = (argument :: rest).map String.toList := by
        constructor
        · intro same
          rw [← same, List.map_map]
          simp
        · rintro rfl
          simp
      have found := splitArgumentsFrom_joined_iff characters (Or.inl rfl)
      rw [← List.map_cons (f := String.toList), ← List.map_dropLast, List.forall_mem_map,
        List.forall_mem_map] at found
      rw [splitArguments, String.toList_intercalate, texts]
      exact found

theorem splitArguments_intercalate {arguments : List String}
    (separate : ∀ argument ∈ arguments, IsArgument argument.toList) :
    splitArguments (String.intercalate ", " arguments) = arguments := by
  refine (splitArguments_joined_iff fun argument member => ?_).mpr
    ⟨fun argument member => ?_, fun argument member => ?_⟩
  · exact ⟨(separate argument member).nonempty, (separate argument member).trimmed⟩
  · simpa [EnclosesCommas] using (separate argument member).commasInside
  · exact (separate argument (List.mem_of_mem_dropLast member)).balanced

/-- As many brackets are opened in a text as are closed in it, all kinds taken together. -/
def IsBalanced (text : List Char) : Prop := text.countP opensBracket = text.countP closesBracket

instance : DecidablePred IsBalanced := fun _ => inferInstanceAs (Decidable (_ = _))

/-- No comma of the text has as many brackets opened as closed in front of it. -/
def HidesCommas (text : List Char) : Prop :=
  ∀ before after, text = before ++ ',' :: after → ¬ IsBalanced before

instance : DecidablePred HidesCommas := fun text =>
  decidable_of_iff (∀ before ∈ text.inits, before ++ [','] <+: text → ¬ IsBalanced before)
    forall_before_comma_iff

theorem level_eq_sub (text : List Char) :
    level text = (text.countP opensBracket : Int) - text.countP closesBracket := by
  induction text with
  | nil => rfl
  | cons c text ih =>
      rw [level_cons, ih, List.countP_cons, List.countP_cons, levelAfter]
      by_cases opens : opensBracket c = true
      · -- no bracket does both
        have noClosing : closesBracket c = false := by
          simp only [opensBracket, Bool.or_eq_true, beq_iff_eq] at opens
          rcases opens with (rfl | rfl) | rfl <;> rfl
        simp only [opens, noClosing, if_true, Bool.false_eq_true, if_false]
        omega
      · by_cases closes : closesBracket c = true
        · simp only [opens, closes, if_true, Bool.false_eq_true, if_false]
          omega
        · simp only [opens, closes, Bool.false_eq_true, if_false]
          omega

theorem level_eq_zero_iff {text : List Char} : level text = 0 ↔ IsBalanced text := by
  rw [level_eq_sub, IsBalanced]
  omega

theorem enclosesCommas_iff {text : List Char} : EnclosesCommas 0 text ↔ HidesCommas text := by
  simp only [EnclosesCommas, HidesCommas, Int.zero_add, ← level_eq_zero_iff, ne_eq]

/-- Splitting undoes joining.  Trimmed arguments are found again if each closes as many brackets as
it opens and hides its commas.  No others are, but that the last one may leave brackets open. -/
theorem split_inverts_join {arguments : List String}
    (trimmed : ∀ argument ∈ arguments, IsTrimmed argument.toList) :
    ((∀ argument ∈ arguments, IsBalanced argument.toList ∧ HidesCommas argument.toList) →
      splitArguments (String.intercalate ", " arguments) = arguments) ∧
    (splitArguments (String.intercalate ", " arguments) = arguments →
      (∀ argument ∈ arguments, HidesCommas argument.toList) ∧
        ∀ argument ∈ arguments.dropLast, IsBalanced argument.toList) := by
  have found := splitArguments_joined_iff trimmed
  simp only [enclosesCommas_iff, level_eq_zero_iff] at found
  refine ⟨fun separate => found.mpr ⟨fun argument member => (separate argument member).2, ?_⟩,
    found.mp⟩
  exact fun argument member => (separate argument (List.mem_of_mem_dropLast member)).1

/-- An argument that closes a bracket before it opens one is found again, one that is left open is
not. -/
theorem split_of_closing_first :
    (∀ argument ∈ [")a, b(", "[f(x), y]"], IsTrimmed argument.toList ∧
      IsBalanced argument.toList ∧ HidesCommas argument.toList) ∧
    splitArguments ")a, b(, [f(x), y]" = [")a, b(", "[f(x), y]"] ∧
    (∀ argument ∈ ["f(x", "y"], IsTrimmed argument.toList) ∧
    splitArguments "f(x, y" ≠ ["f(x", "y"] := by
  have separate : ∀ argument ∈ [")a, b(", "[f(x), y]"], IsTrimmed argument.toList ∧
      IsBalanced argument.toList ∧ HidesCommas argument.toList := by decide
  have trimmed : ∀ argument ∈ ["f(x", "y"], IsTrimmed argument.toList := by decide
  have leftOpen : ¬ IsBalanced "f(x".toList := by decide
  refine ⟨separate, (split_inverts_join fun argument member => (separate argument member).1).1
    fun argument member => (separate argument member).2, trimmed, fun found => ?_⟩
  exact leftOpen (((split_inverts_join trimmed).2 found).2 "f(x" (by decide))

end FormatCall

end AssetAudit
