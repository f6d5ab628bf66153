import AssetAudit.Files.Tree
import Mathlib.Data.List.Infix

namespace AssetAudit

/-! Trees as a disk holds them, and what writing a new file adds to one. -/

/-- A name that stands for an entry of the directory in which it is used. -/
structure IsProperName (name : String) : Prop where
  nonempty : name ≠ ""
  notHere : name ≠ "."
  notAbove : name ≠ ".."
  noSlash : '/' ∉ name.toList

instance : DecidablePred IsProperName := fun name =>
  decidable_of_iff (name ≠ "" ∧ name ≠ "." ∧ name ≠ ".." ∧ '/' ∉ name.toList)
    ⟨fun ⟨nonempty, notHere, notAbove, noSlash⟩ => ⟨nonempty, notHere, notAbove, noSlash⟩,
      fun proper => ⟨proper.nonempty, proper.notHere, proper.notAbove, proper.noSlash⟩⟩

theorem IsProperName.concat {names : List String} {name : String}
    (proper : ∀ other ∈ names, IsProperName other) (last : IsProperName name) :
    ∀ other ∈ names ++ [name], IsProperName other := by
  intro other member
  rcases List.mem_append.mp member with above | final
  · exact proper other above
  · exact List.mem_singleton.mp final ▸ last

theorem Location.move_proper {name : String} (proper : IsProperName name) (here : Location) :
    here.move name = here ++ [name] := by
  simp [move, proper.nonempty, proper.notHere, proper.notAbove]

/-- A tree in which every entry has a proper name and a directory around it, and no place has two
entries. -/
structure FileTree.IsProper (tree : FileTree) : Prop where
  nonempty : ∀ entry ∈ tree.entries, entry.1 ≠ []
  named : ∀ entry ∈ tree.entries, ∀ name ∈ entry.1, IsProperName name
  nested : ∀ entry ∈ tree.entries, tree.isDirectory entry.1.dropLast = true
  distinct : (tree.entries.map Prod.fst).Nodup

instance : DecidablePred FileTree.IsProper := fun tree =>
  decidable_of_iff
    ((∀ entry ∈ tree.entries, entry.1 ≠ []) ∧
      (∀ entry ∈ tree.entries, ∀ name ∈ entry.1, IsProperName name) ∧
      (∀ entry ∈ tree.entries, tree.isDirectory entry.1.dropLast = true) ∧
      (tree.entries.map Prod.fst).Nodup)
    ⟨fun ⟨nonempty, named, nested, distinct⟩ => ⟨nonempty, named, nested, distinct⟩,
      fun proper => ⟨proper.nonempty, proper.named, proper.nested, proper.distinct⟩⟩

namespace FileTree

variable {tree : FileTree}

theorem entry?_listed {place : Location} (nonempty : place ≠ []) (last : place.getLast? ≠ some "") :
    tree.entry? place = (tree.entries.find? (·.1 = place)).map (·.2) := by
  unfold entry?
  simp [nonempty, last]

theorem mem_entries_of_found {place : Location} {entry : Entry} (nonempty : place ≠ [])
    (last : place.getLast? ≠ some "") (found : tree.entry? place = some entry) :
    (place, entry) ∈ tree.entries := by
  rw [entry?_listed nonempty last, Option.map_eq_some_iff] at found
  obtain ⟨⟨other, _⟩, first, rfl⟩ := found
  have same : other = place := by simpa using List.find?_some first
  exact same ▸ List.mem_of_find?_eq_some first

theorem IsProper.last_ne (proper : tree.IsProper) {entry : Location × Entry}
    (member : entry ∈ tree.entries) : entry.1.getLast? ≠ some "" := by
  intro last
  exact (proper.named entry member "" (List.mem_of_getLast? last)).nonempty rfl

theorem entry?_of_mem (distinct : (tree.entries.map Prod.fst).Nodup) {entry : Location × Entry}
    (member : entry ∈ tree.entries) (nonempty : entry.1 ≠ [])
    (last : entry.1.getLast? ≠ some "") : tree.entry? entry.1 = some entry.2 := by
  obtain ⟨before, after, equal⟩ := List.append_of_mem member
  have fresh : before.find? (·.1 = entry.1) = none := by
    rw [List.find?_eq_none]
    intro other among same
    rw [equal, List.map_append, List.map_cons, List.nodup_append] at distinct
    exact distinct.2.2 other.1 (List.mem_map_of_mem among) entry.1 (by simp) (by simpa using same)
  rw [entry?_listed nonempty last, equal, List.find?_append, fresh]
  simp

theorem IsProper.entry?_of_mem (proper : tree.IsProper) {entry : Location × Entry}
    (member : entry ∈ tree.entries) : tree.entry? entry.1 = some entry.2 :=
  FileTree.entry?_of_mem proper.distinct member (proper.nonempty entry member)
    (proper.last_ne member)

/-- The directory around an entry is an entry itself, unless it is the root. -/
theorem IsProper.parent_mem (proper : tree.IsProper) {parent : Location} {name : String}
    {entry : Entry} (member : (parent ++ [name], entry) ∈ tree.entries) (nonempty : parent ≠ []) :
    (parent, Entry.directory) ∈ tree.entries := by
  have around : tree.isDirectory parent = true := by
    simpa using proper.nested (parent ++ [name], entry) member
  have lastProper : parent.getLast? ≠ some "" := by
    intro last
    exact (proper.named _ member ""
      (List.mem_append_left _ (List.mem_of_getLast? last))).nonempty rfl
  exact mem_entries_of_found nonempty lastProper (by simpa [isDirectory] using around)

/-- Every place on the way to an entry is a directory. -/
theorem IsProper.isDirectory_above (proper : tree.IsProper) {entry : Location × Entry}
    (member : entry ∈ tree.entries) {above : Location} (on : above <+: entry.1)
    (other : above ≠ entry.1) : tree.isDirectory above = true := by
  obtain ⟨place, kind⟩ := entry
  induction place using List.reverseRecOn generalizing kind with
  | nil => exact absurd (List.prefix_nil.mp on) other
  | append_singleton parent name ih =>
      rcases List.prefix_concat_iff.mp on with same | within
      · exact absurd same other
      · by_cases top : above = parent
        · rw [top]
          simpa using proper.nested (parent ++ [name], kind) member
        · have nonempty : parent ≠ [] := by
            intro empty
            rw [empty] at within top
            exact top (List.prefix_nil.mp within)
          exact ih .directory (proper.parent_mem member nonempty) within top

end FileTree

end AssetAudit
