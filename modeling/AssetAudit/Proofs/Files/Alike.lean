import AssetAudit.Proofs.Files.Listing
import AssetAudit.Proofs.Files.Paths
import AssetAudit.Proofs.Text.CanonicalSet

namespace AssetAudit

/-! A path gives the same on two disks as long as they hold the same on its way. -/

theorem IsProperName.isGone_eq_false {names : Location}
    (proper : ∀ name ∈ names, IsProperName name) : names.isGone = false := by
  rw [Location.isGone, List.contains_eq_mem]
  exact decide_eq_false fun among => (proper "" among).nonempty rfl

theorem Location.isGone_append (above below : Location) :
    Location.isGone (above ++ below) = (above.isGone || below.isGone) := by
  simp [Location.isGone]

namespace FileTree

/-- Two trees hold the same on the way from a directory of each to a place below it. -/
structure Alike (tree other : FileTree) (base otherBase names : Location) : Prop where
  nonempty : names ≠ []
  proper : ∀ name ∈ names, IsProperName name
  gone : otherBase.isGone = base.isGone
  same : ∀ before, before <+: names →
    other.entry? (otherBase ++ before) = tree.entry? (base ++ before)

variable {tree other : FileTree} {here otherHere there base otherBase directory : Location}
  {otherDirectory : Location} {root : String} {names : Location}

theorem located_below (located : tree.locate directory root = .ok base) (nonempty : names ≠ [])
    (proper : ∀ name ∈ names, IsProperName name)
    (reached : tree.locate directory (joinPaths root (relativePath names)) = .ok there) :
    there = base ++ names := by
  rw [locate_joinPaths located nonempty proper] at reached
  split at reached
  · cases reached
  · split at reached
    · cases reached
    · exact foldlM_step_names proper reached

/-- A listing that is given has the names in the directory at the end of the path. -/
theorem list_below (located : tree.locate directory root = .ok base) (nonempty : names ≠ [])
    (proper : ∀ name ∈ names, IsProperName name) {found : List String}
    (listed : tree.list directory (joinPaths root (relativePath names)) = .ok found) :
    found = tree.namesIn (base ++ names) := by
  unfold FileTree.list at listed
  cases reached : tree.locate directory (joinPaths root (relativePath names)) with
  | error failure =>
      rw [reached] at listed
      cases listed
  | ok place =>
      rw [reached] at listed
      simp only [bind, Except.bind] at listed
      split at listed
      · cases listed
      · cases listed
      · rw [← located_below located nonempty proper reached]
        exact (Except.ok.inj listed).symm

theorem step_alike {name : String} (proper : IsProperName name)
    (gone : otherHere.isGone = here.isGone) (same : other.entry? otherHere = tree.entry? here) :
    other.step otherHere name = (tree.step here name).map fun _ => otherHere ++ [name] := by
  unfold step
  rw [same, gone, Location.move_proper proper]
  split
  · rfl
  · rfl
  · split
    · rfl
    · rfl

theorem foldlM_step_alike (proper : ∀ name ∈ names, IsProperName name)
    (gone : otherHere.isGone = here.isGone)
    (same : ∀ before, before <+: names →
      other.entry? (otherHere ++ before) = tree.entry? (here ++ before)) :
    names.foldlM other.step otherHere =
      (names.foldlM tree.step here).map fun _ => otherHere ++ names := by
  induction names generalizing here otherHere with
  | nil => simp [Except.map, pure, Except.pure]
  | cons name rest ih =>
      have properName := proper name (by simp)
      have start : other.entry? otherHere = tree.entry? here := by
        simpa using same [] List.nil_prefix
      rw [List.foldlM_cons, List.foldlM_cons, step_alike properName gone start]
      cases moved : tree.step here name with
      | error failure => rfl
      | ok next =>
          obtain rfl : next = here ++ [name] := by
            rw [(step_eq_ok moved).2, Location.move_proper properName]
          have further : rest.foldlM other.step (otherHere ++ [name]) =
              (rest.foldlM tree.step (here ++ [name])).map fun _ => otherHere ++ [name] ++ rest := by
            refine ih (fun later among => proper later (List.mem_cons_of_mem name among)) ?_ ?_
            · rw [Location.isGone_append, Location.isGone_append, gone]
            · intro before start
              simpa using same (name :: before) (List.cons_prefix_cons.mpr ⟨rfl, start⟩)
          rw [List.append_assoc, List.singleton_append] at further
          exact further

namespace Alike

variable (alike : Alike tree other base otherBase names)

include alike

variable (located : tree.locate directory root = .ok base)
  (otherLocated : other.locate otherDirectory root = .ok otherBase)

include located otherLocated

theorem locate :
    other.locate otherDirectory (joinPaths root (relativePath names)) =
      (tree.locate directory (joinPaths root (relativePath names))).map
        fun _ => otherBase ++ names := by
  rw [locate_joinPaths located alike.nonempty alike.proper,
    locate_joinPaths otherLocated alike.nonempty alike.proper,
    foldlM_step_alike alike.proper alike.gone alike.same]
  split
  · rfl
  · split
    · rfl
    · rfl

theorem content :
    other.content otherDirectory (joinPaths root (relativePath names)) =
      tree.content directory (joinPaths root (relativePath names)) := by
  unfold FileTree.content
  rw [alike.locate located otherLocated]
  cases reached : tree.locate directory (joinPaths root (relativePath names)) with
  | error failure => rfl
  | ok place =>
      obtain rfl := located_below located alike.nonempty alike.proper reached
      simp only [Except.map, bind, Except.bind]
      rw [alike.same names List.prefix_rfl]

theorem byteSize :
    other.byteSize otherDirectory (joinPaths root (relativePath names)) =
      tree.byteSize directory (joinPaths root (relativePath names)) := by
  unfold FileTree.byteSize
  rw [alike.locate located otherLocated]
  cases reached : tree.locate directory (joinPaths root (relativePath names)) with
  | error failure => rfl
  | ok place =>
      obtain rfl := located_below located alike.nonempty alike.proper reached
      simp only [Except.map, alike.same names List.prefix_rfl]

theorem list (inside : other.namesIn (otherBase ++ names) = tree.namesIn (base ++ names)) :
    other.list otherDirectory (joinPaths root (relativePath names)) =
      tree.list directory (joinPaths root (relativePath names)) := by
  unfold FileTree.list
  rw [alike.locate located otherLocated]
  cases reached : tree.locate directory (joinPaths root (relativePath names)) with
  | error failure => rfl
  | ok place =>
      obtain rfl := located_below located alike.nonempty alike.proper reached
      simp only [Except.map, bind, Except.bind]
      rw [alike.same names List.prefix_rfl, inside]

end Alike

/-- What holds of the way to a directory holds of the way to an entry of it. -/
theorem Alike.concat (alike : Alike tree other base otherBase names) {name : String}
    (proper : IsProperName name)
    (same : other.entry? (otherBase ++ (names ++ [name])) =
      tree.entry? (base ++ (names ++ [name]))) :
    Alike tree other base otherBase (names ++ [name]) where
  nonempty := by simp
  proper := IsProperName.concat alike.proper proper
  gone := alike.gone
  same := by
    intro before start
    rcases List.prefix_concat_iff.mp start with rfl | within
    · exact same
    · exact alike.same before within

section Listed

variable (proper : tree.IsProper) (otherProper : other.IsProper)

include proper

theorem IsProper.isGone_base {entry : Entry}
    (member : (base ++ names, entry) ∈ tree.entries) : base.isGone = false :=
  IsProperName.isGone_eq_false fun name among =>
    proper.named _ member name (List.mem_append_left names among)

theorem IsProper.entry?_on_way {entry : Entry} (member : (base ++ names, entry) ∈ tree.entries)
    {before : Location} (start : before <+: names) :
    tree.entry? (base ++ before) = some (if before = names then entry else .directory) := by
  split
  · rename_i whole
    exact whole ▸ proper.entry?_of_mem member
  · rename_i short
    have onWay : base ++ before <+: base ++ names := (List.prefix_append_right_inj base).mpr start
    have other : base ++ before ≠ base ++ names := fun same => short (List.append_cancel_left same)
    exact isDirectory_iff.mp (proper.isDirectory_above member onWay other)

include otherProper

/-- The way to an entry that both disks list leads through directories on both. -/
theorem alike_of_listed (nonempty : names ≠ []) {entry : Entry}
    (member : (base ++ names, entry) ∈ tree.entries)
    (otherMember : (otherBase ++ names, entry) ∈ other.entries) :
    Alike tree other base otherBase names where
  nonempty := nonempty
  proper := fun name among => proper.named _ member name (List.mem_append_right _ among)
  gone := (otherProper.isGone_base otherMember).trans (proper.isGone_base member).symm
  same := by
    intro before start
    rw [proper.entry?_on_way member start, otherProper.entry?_on_way otherMember start]

/-- A place below a directory gives the same if both disks list the same there. -/
theorem entry?_eq_of_listed (nonempty : names ≠ []) (named : ∀ name ∈ names, IsProperName name)
    (same : ∀ entry, (base ++ names, entry) ∈ tree.entries ↔
      (otherBase ++ names, entry) ∈ other.entries) :
    other.entry? (otherBase ++ names) = tree.entry? (base ++ names) := by
  have last : ∀ above : Location, (above ++ names).getLast? ≠ some "" := by
    intro above final
    rw [List.getLast?_append_of_ne_nil _ nonempty] at final
    exact (named "" (List.mem_of_getLast? final)).nonempty rfl
  refine Option.ext fun entry => ?_
  constructor
  · intro found
    exact proper.entry?_of_mem ((same entry).mpr
      (mem_entries_of_found (by simp [nonempty]) (last otherBase) found))
  · intro found
    exact otherProper.entry?_of_mem ((same entry).mp
      (mem_entries_of_found (by simp [nonempty]) (last base) found))

theorem namesIn_eq_of_listed
    (same : ∀ name, (∃ entry, (base ++ [name], entry) ∈ tree.entries) ↔
      ∃ entry, (otherBase ++ [name], entry) ∈ other.entries) :
    other.namesIn otherBase = tree.namesIn base :=
  Text.eq_of_strict_order (fun _ _ => String.lt_asymm)
    (Text.sorted_strict (nodup_childNames otherProper.distinct otherBase))
    (Text.sorted_strict (nodup_childNames proper.distinct base))
    fun name => (mem_namesIn.trans (same name).symm).trans mem_namesIn.symm

end Listed

end FileTree

end AssetAudit
