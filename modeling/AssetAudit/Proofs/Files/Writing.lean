import AssetAudit.Proofs.Files.Listing
import Mathlib.Data.List.Infix

namespace AssetAudit

/-! A new file comes with the directories above it that were missing.  Nothing else changes. -/

theorem Location.mem_ancestry {place above : Location} (member : above ∈ place.ancestry) :
    above <+: place := by
  suffices suffixes : ∀ names : List String, above ∈ ancestryOf names → above <+: names.reverse by
    simpa using suffixes place.reverse member
  intro names
  induction names with
  | nil =>
      intro top
      simpa [ancestryOf] using top
  | cons name rest ih =>
      intro listed
      rcases List.mem_cons.mp listed with same | above
      · exact same ▸ List.prefix_rfl
      · rw [List.reverse_cons]
        exact (ih above).trans (List.prefix_append _ _)

namespace FileTree

variable {tree wider : FileTree} {place : Location}

/-- Whatever a tree holds, the other one holds as well. -/
def Keeps (tree wider : FileTree) : Prop :=
  ∀ place entry, tree.entry? place = some entry → wider.entry? place = some entry

theorem isDirectory_iff : tree.isDirectory place = true ↔ tree.entry? place = some .directory := by
  simp [isDirectory]

theorem Keeps.isDirectory (keeps : tree.Keeps wider) (directory : tree.isDirectory place = true) :
    wider.isDirectory place = true :=
  isDirectory_iff.mpr (keeps place _ (isDirectory_iff.mp directory))

theorem Keeps.entry?_eq (keeps : tree.Keeps wider) (known : tree.contains place = true) :
    wider.entry? place = tree.entry? place := by
  obtain ⟨entry, found⟩ := Option.isSome_iff_exists.mp known
  rw [found, keeps place entry found]

variable {added : List (Location × Entry)}

theorem entry?_append_of_contains (grown : wider.entries = tree.entries ++ added)
    (known : tree.contains place = true) : wider.entry? place = tree.entry? place := by
  unfold contains at known
  unfold entry? at known ⊢
  rw [grown, List.find?_append]
  split
  · rfl
  · rename_i listed
    rw [if_neg listed, Option.isSome_map] at known
    rw [Option.or_of_isSome known]

theorem keeps_of_append (grown : wider.entries = tree.entries ++ added) : tree.Keeps wider := by
  intro place entry found
  rw [entry?_append_of_contains grown (by rw [contains, found]; rfl), found]

theorem entry?_append_of_aside (grown : wider.entries = tree.entries ++ added)
    (aside : ∀ entry ∈ added, entry.1 ≠ place) : wider.entry? place = tree.entry? place := by
  have none : added.find? (·.1 = place) = none := by
    simpa [List.find?_eq_none] using aside
  unfold entry?
  rw [grown, List.find?_append, none, Option.or_none]

theorem nodup_concat {places : List Location} (distinct : places.Nodup) (absent : place ∉ places) :
    (places ++ [place]).Nodup := by
  refine List.nodup_append.mpr ⟨distinct, List.pairwise_singleton _ _, ?_⟩
  intro other member last single same
  rw [same, List.mem_singleton.mp single] at member
  exact absent member

theorem not_mem_of_fresh (fresh : tree.contains place = false) :
    ∀ entry ∈ tree.entries, entry.1 ≠ place := by
  unfold contains entry? at fresh
  split at fresh
  · cases fresh
  · simpa [List.find?_eq_none] using fresh

/-- The directories among these places that are missing are added once, and nothing else. -/
theorem makeDirectory_foldr_entries (tree : FileTree) (places : List Location) :
    ∃ made : List Location,
      (places.foldr (fun directory tree => tree.makeDirectory directory) tree).entries =
          tree.entries ++ made.map (·, Entry.directory) ∧
        made.Nodup ∧ ∀ directory ∈ made, directory ∈ places ∧ tree.contains directory = false := by
  induction places with
  | nil => exact ⟨[], by simp, List.nodup_nil, by simp⟩
  | cons place places ih =>
      obtain ⟨made, grown, distinct, missing⟩ := ih
      rw [List.foldr_cons, makeDirectory]
      split
      · exact ⟨made, grown, distinct, fun directory member =>
          ⟨List.mem_cons_of_mem place (missing directory member).1, (missing directory member).2⟩⟩
      · rename_i unknown
        have absent : place ∉ made := by
          intro member
          refine not_mem_of_fresh (Bool.not_eq_true _ ▸ unknown) (place, .directory) ?_ rfl
          rw [grown]
          exact List.mem_append_right _ (List.mem_map_of_mem member)
        refine ⟨made ++ [place], by simp [grown], nodup_concat distinct absent, ?_⟩
        intro directory member
        rcases List.mem_append.mp member with before | last
        · exact ⟨List.mem_cons_of_mem place (missing directory before).1,
            (missing directory before).2⟩
        · obtain rfl := List.mem_singleton.mp last
          refine ⟨List.mem_cons_self, ?_⟩
          cases known : tree.contains directory with
          | false => rfl
          | true =>
              rw [contains, entry?_append_of_contains grown known] at unknown
              exact absurd known unknown

theorem nonempty_of_fresh (fresh : tree.contains place = false) : place ≠ [] := by
  intro empty
  rw [empty] at fresh
  cases fresh

theorem ne_of_above {directory : Location} (nonempty : place ≠ [])
    (above : directory <+: place.dropLast) : directory ≠ place := by
  intro same
  have shorter := above.length_le
  have positive := List.length_pos_of_ne_nil nonempty
  rw [same, List.length_dropLast] at shorter
  omega

/-- What writing a new file adds to a tree. -/
theorem write_entries (fresh : tree.contains place = false) (content : List UInt8) :
    ∃ made : List Location,
      (tree.write place content).entries =
          tree.entries ++ (made.map (·, Entry.directory) ++ [(place, .file content)]) ∧
        made.Nodup ∧
        ∀ directory ∈ made, directory <+: place.dropLast ∧ tree.contains directory = false := by
  obtain ⟨made, grown, distinct, missing⟩ :=
    makeDirectory_foldr_entries tree (Location.ancestry place.dropLast)
  have above : ∀ directory ∈ made, directory <+: place.dropLast :=
    fun directory member => Location.mem_ancestry (missing directory member).1
  have untouched : (tree.entries ++ made.map (·, Entry.directory)).filter (·.1 ≠ place) =
      tree.entries ++ made.map (·, Entry.directory) := by
    rw [List.filter_eq_self]
    intro entry member
    rcases List.mem_append.mp member with old | new
    · simpa using not_mem_of_fresh fresh entry old
    · obtain ⟨directory, among, rfl⟩ := List.mem_map.mp new
      simpa using ne_of_above (nonempty_of_fresh fresh) (above directory among)
  refine ⟨made, ?_, distinct, fun directory member =>
    ⟨above directory member, (missing directory member).2⟩⟩
  rw [write, makeDirectories, grown, untouched, List.append_assoc]

theorem keeps_write (fresh : tree.contains place = false) (content : List UInt8) :
    tree.Keeps (tree.write place content) := by
  obtain ⟨_, grown, _, _⟩ := write_entries fresh content
  exact keeps_of_append grown

/-- Places that are not on the way to the new file hold what they held. -/
theorem entry?_write_aside (fresh : tree.contains place = false) (content : List UInt8)
    {other : Location} (aside : ¬ other <+: place) :
    FileTree.entry? (tree.write place content) other = tree.entry? other := by
  obtain ⟨made, grown, _, missing⟩ := write_entries fresh content
  apply entry?_append_of_aside grown
  intro entry member same
  apply aside
  rw [← same]
  rcases List.mem_append.mp member with above | file
  · obtain ⟨directory, among, rfl⟩ := List.mem_map.mp above
    exact (missing directory among).1.trans <| List.dropLast_prefix place
  · rw [List.mem_singleton.mp file]

theorem entry?_write_self (fresh : tree.contains place = false) (content : List UInt8) :
    FileTree.entry? (tree.write place content) place = some (.file content) := by
  obtain ⟨made, grown, _, missing⟩ := write_entries fresh content
  have listed : ¬ (place = [] || place.getLast? = some "") = true := by
    intro special
    rw [contains, FileTree.entry?, if_pos special] at fresh
    cases fresh
  have old : tree.entries.find? (·.1 = place) = none := by
    simpa [List.find?_eq_none] using not_mem_of_fresh fresh
  have above : (made.map (·, Entry.directory)).find? (·.1 = place) = none := by
    rw [List.find?_eq_none]
    intro entry member
    obtain ⟨directory, among, rfl⟩ := List.mem_map.mp member
    simpa using ne_of_above (nonempty_of_fresh fresh) (missing directory among).1
  rw [FileTree.entry?, if_neg listed, grown, List.find?_append, List.find?_append, old, above]
  simp

/-- A tree with a new file holds the old entries, the file and directories on the way to it. -/
theorem mem_write (fresh : tree.contains place = false) {content : List UInt8} {other : Location}
    {entry : Entry} (member : (other, entry) ∈ (tree.write place content).entries) :
    (other, entry) ∈ tree.entries ∨ other = place ∧ entry = .file content ∨
      other <+: place.dropLast ∧ entry = .directory := by
  obtain ⟨made, grown, _, missing⟩ := write_entries fresh content
  rw [grown, List.mem_append, List.mem_append] at member
  rcases member with old | above | file
  · exact Or.inl old
  · obtain ⟨directory, among, same⟩ := List.mem_map.mp above
    obtain ⟨rfl, rfl⟩ := Prod.mk.inj same
    exact Or.inr (Or.inr ⟨(missing _ among).1, rfl⟩)
  · exact Or.inr (Or.inl (Prod.mk.inj (List.mem_singleton.mp file)))

theorem mem_write_of_mem (fresh : tree.contains place = false) (content : List UInt8)
    {entry : Location × Entry} (member : entry ∈ tree.entries) :
    entry ∈ (tree.write place content).entries := by
  obtain ⟨made, grown, _, _⟩ := write_entries fresh content
  rw [grown]
  exact List.mem_append_left _ member

theorem distinct_write (fresh : tree.contains place = false) (content : List UInt8)
    (distinct : (tree.entries.map Prod.fst).Nodup) :
    ((tree.write place content).entries.map Prod.fst).Nodup := by
  obtain ⟨made, grown, distinctMade, missing⟩ := write_entries fresh content
  have places : (tree.write place content).entries.map Prod.fst =
      tree.entries.map Prod.fst ++ (made ++ [place]) := by
    simp [grown, Function.comp_def]
  have newPlace : place ∉ made := fun member =>
    ne_of_above (nonempty_of_fresh fresh) (missing place member).1 rfl
  rw [places]
  refine List.nodup_append.mpr ⟨distinct, nodup_concat distinctMade newPlace, ?_⟩
  intro old among new added same
  obtain ⟨entry, member, rfl⟩ := List.mem_map.mp among
  have unknown : tree.contains new = false := by
    rcases List.mem_append.mp added with above | last
    · exact (missing new above).2
    · exact List.mem_singleton.mp last ▸ fresh
  exact not_mem_of_fresh unknown entry member same

theorem children_write_aside (fresh : tree.contains place = false) (content : List UInt8)
    {directory : Location} (aside : ∀ name, ¬ directory ++ [name] <+: place) :
    (tree.write place content).children directory = tree.children directory := by
  obtain ⟨made, grown, _, missing⟩ := write_entries fresh content
  have grownChildren : (tree.write place content).children directory = tree.children directory ++
      FileTree.children ⟨made.map (·, Entry.directory) ++ [(place, .file content)]⟩ directory := by
    rw [children, children, children, grown, List.filterMap_append]
  have none : FileTree.children ⟨made.map (·, Entry.directory) ++ [(place, .file content)]⟩
      directory = [] := by
    rw [List.eq_nil_iff_forall_not_mem]
    intro child member
    have listed := mem_children.mp member
    refine aside child.1 ?_
    rcases List.mem_append.mp listed with above | file
    · obtain ⟨other, among, same⟩ := List.mem_map.mp above
      rw [← (Prod.mk.inj same).1]
      exact (missing other among).1.trans (List.dropLast_prefix place)
    · rw [(Prod.mk.inj (List.mem_singleton.mp file)).1]
  rw [grownChildren, none, List.append_nil]

end FileTree

end AssetAudit
