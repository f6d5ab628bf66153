import AssetAudit.Environment.Load
import AssetAudit.Proofs.Environment.Keeping
import AssetAudit.Proofs.Files.Overlong

namespace AssetAudit

/-! The settings file that a search finds is the nearest one inside the repository. -/

theorem Location.ancestry_concat (above : Location) (name : String) :
    ancestry (above ++ [name]) = (above ++ [name]) :: ancestry above := by
  simp [ancestry, ancestryOf]

/-- The names of the current directory are those of directories on a disk, or of removed ones. -/
def Workspace.IsNamed (workspace : Workspace) : Prop :=
  ∀ name ∈ workspace.directory, name = "" ∨ IsProperName name ∧ '\x00' ∉ name.toList

namespace SettingsFile

variable {files : FileTree} {start directory above place : Location} {name : String}

/-- Of the directories from a place upwards this one is the first with a settings file, and none
before it is the topmost one of a repository. -/
structure IsNearest (files : FileTree) (start directory : Location) : Prop where
  above : directory <+: start
  held : files.isFile (directory ++ [fileName]) = true
  passed : ∀ place, directory <+: place → place <+: start → place ≠ directory →
    files.isFile (place ++ [fileName]) = false ∧
      files.contains (place ++ [boundaryName]) = false

theorem isNearest_of_held (held : files.isFile (start ++ [fileName]) = true) :
    IsNearest files start directory ↔ directory = start := by
  constructor
  · intro nearest
    by_contra other
    have bare := (nearest.passed start nearest.above List.prefix_rfl (Ne.symm other)).1
    rw [held] at bare
    cases bare
  · rintro rfl
    exact ⟨List.prefix_rfl, held,
      fun place below on other => absurd (on.eq_of_length_le below.length_le) other⟩

theorem not_isNearest_root (bare : files.isFile [fileName] = false) :
    ¬ IsNearest files [] directory := by
  intro nearest
  have held := nearest.held
  rw [List.prefix_nil.mp nearest.above, List.nil_append, bare] at held
  cases held

/-- Past a directory without a settings file the search goes on above it, unless it is the topmost
one of a repository. -/
theorem isNearest_concat (bare : files.isFile (above ++ [name] ++ [fileName]) = false) :
    IsNearest files (above ++ [name]) directory ↔
      files.contains (above ++ [name] ++ [boundaryName]) = false ∧
        IsNearest files above directory := by
  constructor
  · intro nearest
    have other : directory ≠ above ++ [name] := by
      rintro rfl
      rw [nearest.held] at bare
      cases bare
    have within := (List.prefix_concat_iff.mp nearest.above).resolve_left other
    exact ⟨(nearest.passed _ nearest.above List.prefix_rfl other.symm).2, within, nearest.held,
      fun place below on => nearest.passed place below (on.trans (List.prefix_append _ _))⟩
  · rintro ⟨inside, nearest⟩
    refine ⟨nearest.above.trans (List.prefix_append _ _), nearest.held, ?_⟩
    intro place below on other
    rcases List.prefix_concat_iff.mp on with rfl | within
    · exact ⟨bare, inside⟩
    · exact nearest.passed place below within other

theorem find_root :
    find files [] = if files.isFile [fileName] then some [fileName] else none := by
  simp [find, Location.ancestry, Location.ancestryOf, findAmong]

theorem find_concat :
    find files (above ++ [name]) =
      if files.isFile (above ++ [name] ++ [fileName]) then some (above ++ [name] ++ [fileName])
      else if files.contains (above ++ [name] ++ [boundaryName]) then none
      else find files above := by
  rw [find, Location.ancestry_concat, findAmong, ← find]

theorem find_eq_some_iff :
    find files start = some place ↔
      ∃ directory, IsNearest files start directory ∧ directory ++ [fileName] = place := by
  -- on the way up: the innermost directory decides, or it only passes the search on
  induction start using List.reverseRecOn with
  | nil =>
      rw [find_root]
      cases held : files.isFile [fileName] with
      | true =>
          have atRoot : files.isFile ([] ++ [fileName]) = true := held
          simp [isNearest_of_held atRoot]
      | false => simp [not_isNearest_root held]
  | append_singleton above name ih =>
      rw [find_concat]
      cases held : files.isFile (above ++ [name] ++ [fileName]) with
      | true => simp [isNearest_of_held held]
      | false =>
          cases boundary : files.contains (above ++ [name] ++ [boundaryName]) with
          | true =>
              simp only [isNearest_concat held, boundary, Bool.false_eq_true, reduceCtorEq,
                if_false, if_true, false_and, exists_false]
          | false =>
              simp only [isNearest_concat held, boundary, Bool.false_eq_true, if_false,
                true_and, ih]

theorem find_eq_none_iff :
    find files start = none ↔ ∀ directory, ¬ IsNearest files start directory := by
  rw [Option.eq_none_iff_forall_ne_some]
  simp [Ne, find_eq_some_iff]

/-- A settings file beside the boundary of its repository counts, one above the boundary does
not. -/
example :
    let outside := [(["shop"], Entry.directory), (["shop", ".git"], .directory),
      ([".env"], .file [])]
    find ⟨outside⟩ ["shop", "src"] = none ∧
      find ⟨(["shop", ".env"], .file []) :: outside⟩ ["shop", "src"] = some ["shop", ".env"] := by
  decide

section Start

variable {workspace : Workspace} {path : String}

theorem named_of_place? (named : workspace.IsNamed) (plain : '\x00' ∉ path.toList)
    (placed : workspace.place? path = some start) :
    ∀ name ∈ start, IsProperName name ∧ '\x00' ∉ name.toList := by
  obtain ⟨base, known, rfl⟩ : ∃ base : Location,
      (∀ name ∈ base, IsProperName name ∧ '\x00' ∉ name.toList) ∧
        start = Location.ofPath base path := by
    unfold Workspace.place? at placed
    split at placed
    · exact ⟨[], List.forall_mem_nil _, (Option.some.inj placed).symm⟩
    · split at placed
      · cases placed
      · rename_i present
        have kept : "" ∉ workspace.directory := by simpa [Location.isGone] using present
        exact ⟨_, fun name member => (named name member).resolve_left
          fun empty => kept (empty ▸ member), (Option.some.inj placed).symm⟩
  intro name member
  refine ⟨Location.ofPath_isProper (fun other among => (known other among).1) name member, ?_⟩
  rcases Location.mem_ofPath member with above | part
  · exact (known name above).2
  · exact nulFree_pathParts plain part

theorem findFrom_placed (named : workspace.IsNamed) (plain : '\x00' ∉ path.toList)
    (placed : workspace.place? path = some start) :
    (workspace.files.IsOverlong (start ++ [fileName]) →
      findFrom workspace path =
        .error (.file (Location.text (start ++ [fileName])) (.access .nameTooLong))) ∧
    (¬ workspace.files.IsOverlong (start ++ [fileName]) →
      findFrom workspace path = .ok (find workspace.files start)) := by
  have known : ∀ name ∈ start ++ [fileName], IsProperName name ∧ '\x00' ∉ name.toList :=
    List.forall_mem_append.mpr
      ⟨named_of_place? named plain placed, List.forall_mem_singleton.mpr (by decide)⟩
  have located : workspace.files.locate [] (Location.text (start ++ [fileName])) =
      .error .nameTooLong ↔ workspace.files.IsOverlong (start ++ [fileName]) :=
    FileTree.locate_text_eq_nameTooLong (by simp) (fun name member => (known name member).1)
      fun name member => (known name member).2
  rw [← located]
  constructor
  · intro long
    simp [findFrom, plain, placed, long]
  · intro short
    -- `short` keeps the outcome of the way there out of the first branch
    simp [findFrom, plain, placed]

/-- A search can start at the end of a path: the path leads to a place, which need not hold
anything, and the way to a settings file there is not too long. -/
def IsSearchable (workspace : Workspace) (path : String) : Prop :=
  '\x00' ∉ path.toList ∧ ∃ start, workspace.place? path = some start ∧
    ¬ workspace.files.IsOverlong (start ++ [fileName])

theorem findFrom_of_not_isSearchable (named : workspace.IsNamed)
    (unable : ¬ IsSearchable workspace path) :
    ∃ failure, findFrom workspace path = .error failure := by
  by_cases nul : '\x00' ∈ path.toList
  · exact ⟨_, by rw [findFrom, if_pos (List.contains_iff_mem.mpr nul)]⟩
  · cases placed : workspace.place? path with
    | none => exact ⟨.directoryGone, by simp [findFrom, nul, placed]⟩
    | some start =>
        have long : workspace.files.IsOverlong (start ++ [fileName]) :=
          by_contra fun short => unable ⟨nul, start, placed, short⟩
        exact ⟨_, (findFrom_placed named nul placed).1 long⟩

/-- A search from the end of a path finds the nearest settings file, and nothing just if there is
none. -/
structure FindsNearest (workspace : Workspace) (path : String) : Prop where
  found : ∀ place, findFrom workspace path = .ok (some place) ↔
    ∃ start, workspace.place? path = some start ∧
      ∃ directory, IsNearest workspace.files start directory ∧ directory ++ [fileName] = place
  nothing : findFrom workspace path = .ok none ↔
    ∀ start, workspace.place? path = some start →
      ∀ directory, ¬ IsNearest workspace.files start directory

theorem FindsNearest.returns (finds : FindsNearest workspace path) :
    ∃ found?, findFrom workspace path = .ok found? := by
  by_cases ends : findFrom workspace path = .ok none
  · exact ⟨none, ends⟩
  · rw [finds.nothing] at ends
    push Not at ends
    obtain ⟨start, placed, directory, nearest⟩ := ends
    exact ⟨_, (finds.found _).mpr ⟨start, placed, directory, nearest, rfl⟩⟩

theorem IsSearchable.findsNearest (named : workspace.IsNamed)
    (searchable : IsSearchable workspace path) : FindsNearest workspace path := by
  obtain ⟨plain, start, placed, short⟩ := searchable
  have returned := (findFrom_placed named plain placed).2 short
  constructor
  · intro place
    simp [returned, placed, find_eq_some_iff]
  · simp [returned, placed, find_eq_none_iff]

/-- A search gives the nearest settings file, or nothing where there is none, from every place where
it can start.  Elsewhere it fails. -/
theorem findsNearest_iff (named : workspace.IsNamed) (path : String) :
    (FindsNearest workspace path ↔ IsSearchable workspace path) ∧
      ((∃ failure, findFrom workspace path = .error failure) ↔
        ¬ IsSearchable workspace path) := by
  have fails : ¬ IsSearchable workspace path →
      ∃ failure, findFrom workspace path = .error failure := findFrom_of_not_isSearchable named
  constructor
  · refine ⟨fun finds => ?_, IsSearchable.findsNearest named⟩
    by_contra unable
    obtain ⟨found?, returned⟩ := finds.returns
    obtain ⟨failure, failed⟩ := fails unable
    rw [returned] at failed
    cases failed
  · refine ⟨?_, fails⟩
    rintro ⟨failure, failed⟩ searchable
    obtain ⟨found?, returned⟩ := (searchable.findsNearest named).returns
    rw [returned] at failed
    cases failed

end Start

def nestedPlace (levels : Nat) : Location := List.replicate levels "a"

/-- Directories within each other, below one with a settings file. -/
def nestedProject (levels : Nat) : Workspace :=
  ⟨⟨([".env"], .file []) ::
    (List.range levels).map fun level => (nestedPlace (level + 1), .directory)⟩, []⟩

section Nested

variable {levels : Nat}

theorem nestedPlace_proper : ∀ name ∈ nestedPlace levels, IsProperName name := by
  intro name member
  rw [List.eq_of_mem_replicate member]
  decide

theorem nestedPlace_isDirectory :
    (nestedProject (levels + 1)).files.isDirectory (nestedPlace (levels + 1)) = true := by
  have member : (nestedPlace (levels + 1), Entry.directory) ∈
      (nestedProject (levels + 1)).files.entries :=
    List.mem_cons_of_mem _ (List.mem_map.mpr ⟨levels, by simp, rfl⟩)
  have apart : ((List.range (levels + 1)).map fun level => nestedPlace (level + 1)).Nodup :=
    List.nodup_range.map fun level other same => by
      simpa [nestedPlace] using congrArg List.length same
  have distinct : ((nestedProject (levels + 1)).files.entries.map Prod.fst).Nodup := by
    rw [nestedProject, List.map_cons, List.map_map, List.nodup_cons]
    exact ⟨by simp [nestedPlace, List.replicate_succ], apart⟩
  rw [FileTree.isDirectory_iff]
  exact FileTree.entry?_of_mem distinct member (by simp [nestedPlace])
    (by simp [nestedPlace, List.getLast?_replicate])

theorem nestedProject_bare (nonempty : place ≠ []) (named : name ≠ "") (other : name ≠ "a") :
    (nestedProject levels).files.entry? (place ++ [name]) = none := by
  have absent : ∀ entry ∈ (nestedProject levels).files.entries, entry.1 ≠ place ++ [name] := by
    intro entry member same
    rcases List.mem_cons.mp member with rfl | nested
    · have lengths := congrArg List.length same
      simp [nonempty] at lengths
    · obtain ⟨level, -, rfl⟩ := List.mem_map.mp nested
      have last : name ∈ place ++ [name] := by simp
      rw [← same] at last
      exact other (List.eq_of_mem_replicate last)
  rw [FileTree.entry?_listed (by simp) (by simpa using named), List.find?_eq_none.mpr]
  · rfl
  · simpa using absent

theorem nestedProject_nearest :
    IsNearest (nestedProject levels).files (nestedPlace levels) [] := by
  refine ⟨List.nil_prefix, rfl, fun place _ _ below => ?_⟩
  have file : (nestedProject levels).files.entry? (place ++ [fileName]) = none :=
    nestedProject_bare below (by decide) (by decide)
  have boundary : (nestedProject levels).files.entry? (place ++ [boundaryName]) = none :=
    nestedProject_bare below (by decide) (by decide)
  simp [FileTree.isFile, FileTree.contains, file, boundary]

theorem nestedProject_place? :
    (nestedProject (levels + 1)).place? (relativePath (nestedPlace (levels + 1))) =
      some (nestedPlace (levels + 1)) := by
  have nonempty : nestedPlace (levels + 1) ≠ [] := by simp [nestedPlace]
  have relative := isAbsolutePath_relativePath nonempty nestedPlace_proper
  have reached : Location.ofPath [] (relativePath (nestedPlace (levels + 1))) =
      nestedPlace (levels + 1) := by
    rw [Location.ofPath, pathParts_relativePath nonempty nestedPlace_proper, ite_self,
      Location.foldl_move_proper nestedPlace_proper, List.nil_append]
  simp [Workspace.place?, relative, nestedProject, Location.isGone, reached]

theorem nestedPlace_isOverlong (deep : FileTree.maxPathBytes < 2 * (levels + 1)) :
    (nestedProject levels).files.IsOverlong (nestedPlace levels ++ [fileName]) :=
  FileTree.isOverlong_of_deep (IsProperName.concat nestedPlace_proper (by decide))
    (by simpa [nestedPlace] using deep)

end Nested

/-- From the innermost directory the search fails, although the settings file is there. -/
theorem nestedProject_search_fails :
    (nestedProject 2200).IsNamed ∧
      (nestedProject 2200).place? (relativePath (nestedPlace 2200)) = some (nestedPlace 2200) ∧
      (nestedProject 2200).files.isDirectory (nestedPlace 2200) = true ∧
      IsNearest (nestedProject 2200).files (nestedPlace 2200) [] ∧
      (∃ failure, findFrom (nestedProject 2200) (relativePath (nestedPlace 2200)) =
        .error failure) ∧
      ¬ FindsNearest (nestedProject 2200) (relativePath (nestedPlace 2200)) := by
  have named : (nestedProject 2200).IsNamed := List.forall_mem_nil _
  have overlong : (nestedProject 2200).files.IsOverlong (nestedPlace 2200 ++ [fileName]) :=
    nestedPlace_isOverlong (by decide)
  have unable : ¬ IsSearchable (nestedProject 2200) (relativePath (nestedPlace 2200)) := by
    rintro ⟨-, start, placed, short⟩
    rw [nestedProject_place?] at placed
    exact short (Option.some.inj placed ▸ overlong)
  obtain ⟨finds, fails⟩ := findsNearest_iff named (relativePath (nestedPlace 2200))
  exact ⟨named, nestedProject_place?, nestedPlace_isDirectory, nestedProject_nearest,
    fails.mpr unable, fun found => unable (finds.mp found)⟩

end SettingsFile

end AssetAudit
