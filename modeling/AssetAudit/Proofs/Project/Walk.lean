import AssetAudit.Proofs.Files.Paths
import AssetAudit.Proofs.Project.WalkOrder

namespace AssetAudit

/-! What a walk through a project comes to: every directory that can be entered from above, once,
with all its files, whatever the order in which the disk lists them. -/

/-- Is the file in no hidden directory and in no catalog? -/
def isConsidered (location : Location) : Bool :=
  location.dropLast.all fun directory => !isHidden directory && !isCatalog directory

/-- Is the directory an image set in a catalog, with no hidden directory on the way? -/
def isCatalogGroup (location : Location) : Bool :=
  location.all (!isHidden ·) && location.any isCatalog && isImageSet (fileNameOf location)

namespace FileTree

variable {tree : FileTree} {root : String} {base : Location}

/-- A walk from the root of a project gets into a directory.  On the way it enters directories that
are not hidden and have paths which are not too long. -/
inductive Entered (tree : FileTree) (root : String) (base : Location) : Location → Prop
  | start : Entered tree root base []
  | child {directory : Location} {name : String} (above : Entered tree root base directory)
      (listed : (base ++ directory ++ [name], Entry.directory) ∈ tree.entries)
      (visible : isHidden name = false) (walkable : isWalkable root (directory ++ [name]) = true) :
      Entered tree root base (directory ++ [name])

theorem mem_fileNames {directory : Location} {name : String} :
    name ∈ (Visit.of tree base directory).fileNames ↔
      ∃ content, (base ++ directory ++ [name], Entry.file content) ∈ tree.entries := by
  simp only [Visit.of, Text.sorted, List.mem_mergeSort, List.mem_filterMap]
  constructor
  · intro found
    obtain ⟨⟨child, entry⟩, member, named⟩ := found
    cases entry with
    | directory => cases named
    | file content =>
        obtain rfl := Option.some.inj named
        exact ⟨content, mem_children.mp member⟩
  · intro found
    obtain ⟨content, member⟩ := found
    exact ⟨(name, .file content), mem_children.mpr member, rfl⟩

theorem mem_openDirectories {directory : Location} {name : String} :
    name ∈ Text.sorted ((tree.children directory).filterMap openDirectory?) ↔
      (directory ++ [name], Entry.directory) ∈ tree.entries ∧ isHidden name = false := by
  simp only [Text.sorted, List.mem_mergeSort, List.mem_filterMap]
  constructor
  · intro found
    obtain ⟨⟨child, entry⟩, member, named⟩ := found
    cases entry with
    | file content => cases named
    | directory =>
        obtain ⟨visible, same⟩ := Option.ite_none_left_eq_some.mp named
        obtain rfl := Option.some.inj same
        exact ⟨mem_children.mp member, by simpa using visible⟩
  · intro found
    obtain ⟨member, visible⟩ := found
    exact ⟨(name, .directory), mem_children.mpr member, by simp [openDirectory?, visible]⟩

theorem mem_walkFrom_succ {levels : Nat} {directory : Location} {visit : Visit} :
    visit ∈ tree.walkFrom root base (levels + 1) directory ↔
      isWalkable root directory = true ∧
        (visit = .of tree base directory ∨
          ∃ name, (base ++ directory ++ [name], Entry.directory) ∈ tree.entries ∧
            isHidden name = false ∧
            visit ∈ tree.walkFrom root base levels (directory ++ [name])) := by
  rw [walkFrom]
  split
  · rename_i walkable
    simp only [walkable, true_and, List.mem_cons, List.mem_flatMap, mem_openDirectories, and_assoc]
  · rename_i closed
    simp [closed]

/-- One step of a walk through a directory whose names are listed in ascending order. -/
theorem walkFrom_listed {levels : Nat} {directory : Location} {files directories : List String}
    (walkable : isWalkable root directory = true)
    (named : (tree.children (base ++ directory)).filterMap fileName? = files)
    (inside : (tree.children (base ++ directory)).filterMap openDirectory? = directories)
    (filesAscend : files.Pairwise fun first second => decide (first ≤ second))
    (directoriesAscend : directories.Pairwise fun first second => decide (first ≤ second)) :
    tree.walkFrom root base (levels + 1) directory =
      ⟨directory, files⟩ :: directories.flatMap fun name =>
        tree.walkFrom root base levels (directory ++ [name]) := by
  rw [walkFrom, if_pos walkable, Visit.of, named, inside, Text.sorted, Text.sorted,
    List.mergeSort_of_pairwise filesAscend, List.mergeSort_of_pairwise directoriesAscend]

theorem entered_of_mem_walkFrom {levels : Nat} {directory : Location}
    (above : isWalkable root directory = true → tree.Entered root base directory) {visit : Visit}
    (member : visit ∈ tree.walkFrom root base levels directory) :
    tree.Entered root base visit.directory ∧ visit = .of tree base visit.directory := by
  induction levels generalizing directory with
  | zero => cases member
  | succ levels ih =>
      obtain ⟨walkable, rfl | ⟨name, listed, visible, further⟩⟩ := mem_walkFrom_succ.mp member
      · exact ⟨above walkable, rfl⟩
      · exact ih (fun reachable => .child (above walkable) listed visible reachable) further

theorem walkFrom_mono {levels more : Nat} (fewer : levels ≤ more) {directory : Location}
    {visit : Visit} (member : visit ∈ tree.walkFrom root base levels directory) :
    visit ∈ tree.walkFrom root base more directory := by
  induction levels generalizing directory more with
  | zero => cases member
  | succ levels ih =>
      obtain ⟨others, rfl⟩ : ∃ others, more = others + 1 := ⟨more - 1, by omega⟩
      obtain ⟨walkable, here | ⟨name, listed, visible, further⟩⟩ := mem_walkFrom_succ.mp member
      · exact mem_walkFrom_succ.mpr ⟨walkable, Or.inl here⟩
      · exact mem_walkFrom_succ.mpr
          ⟨walkable, Or.inr ⟨name, listed, visible, ih (by omega) further⟩⟩

/-- A walk that comes to a directory and goes one level further comes to those in it. -/
theorem child_mem_walkFrom {levels : Nat} {start directory : Location} {name : String}
    (member : Visit.of tree base directory ∈ tree.walkFrom root base levels start)
    (listed : (base ++ directory ++ [name], Entry.directory) ∈ tree.entries)
    (visible : isHidden name = false) (walkable : isWalkable root (directory ++ [name]) = true) :
    Visit.of tree base (directory ++ [name]) ∈ tree.walkFrom root base (levels + 1) start := by
  induction levels generalizing start with
  | zero => cases member
  | succ levels ih =>
      obtain ⟨reachable, here | ⟨between, found, shown, further⟩⟩ := mem_walkFrom_succ.mp member
      · obtain rfl : directory = start := congrArg Visit.directory here
        have inside : Visit.of tree base (directory ++ [name]) ∈
            tree.walkFrom root base (levels + 1) (directory ++ [name]) :=
          mem_walkFrom_succ.mpr ⟨walkable, Or.inl rfl⟩
        exact mem_walkFrom_succ.mpr ⟨reachable, Or.inr ⟨name, listed, visible, inside⟩⟩
      · exact mem_walkFrom_succ.mpr ⟨reachable, Or.inr ⟨between, found, shown, ih further⟩⟩

theorem Entered.length_le_depth {directory : Location}
    (entered : tree.Entered root base directory) :
    directory.length ≤ tree.depth := by
  cases entered with
  | start => exact Nat.zero_le _
  | child _ listed _ _ =>
      have bound : (base ++ _ ++ [_]).length ≤ tree.depth :=
        List.le_max?_getD_of_mem (List.mem_map.mpr ⟨_, listed, rfl⟩)
      simp only [List.length_append] at bound ⊢
      omega

theorem Entered.mem_walkFrom {directory : Location} (entered : tree.Entered root base directory) :
    Visit.of tree base directory ∈ tree.walkFrom root base (directory.length + 1) [] := by
  induction entered with
  | start => exact mem_walkFrom_succ.mpr ⟨rfl, Or.inl rfl⟩
  | child _ listed visible walkable ih =>
      rw [List.length_append]
      exact child_mem_walkFrom ih listed visible walkable

/-- A walk comes to the directories that can be entered and to nothing else. -/
theorem mem_walk {visit : Visit} :
    visit ∈ tree.walk root base ↔
      tree.Entered root base visit.directory ∧ visit = .of tree base visit.directory := by
  constructor
  · exact entered_of_mem_walkFrom fun _ => .start
  · intro found
    obtain ⟨entered, shape⟩ := found
    rw [shape]
    -- a walk needs one level for each name on the way, and the tree is no deeper than its levels
    exact walkFrom_mono (Nat.succ_le_succ entered.length_le_depth) entered.mem_walkFrom

theorem mem_filesOutsideCatalogs {place : Location} :
    place ∈ filesOutsideCatalogs (tree.walk root base) ↔
      ∃ directory name content, place = directory ++ [name] ∧
        (base ++ directory ++ [name], Entry.file content) ∈ tree.entries ∧
        tree.Entered root base directory ∧ directory.any isCatalog = false := by
  simp only [filesOutsideCatalogs, List.mem_flatMap, List.mem_filter, Visit.files, List.mem_map,
    mem_walk, Bool.not_eq_true', Visit.isInCatalog]
  constructor
  · intro found
    obtain ⟨visit, ⟨⟨entered, shape⟩, outside⟩, name, member, rfl⟩ := found
    rw [shape] at member
    obtain ⟨content, listed⟩ := mem_fileNames.mp member
    exact ⟨visit.directory, name, content, rfl, listed, entered, outside⟩
  · intro found
    obtain ⟨directory, name, content, rfl, listed, entered, outside⟩ := found
    exact ⟨.of tree base directory, ⟨⟨entered, rfl⟩, outside⟩, name,
      mem_fileNames.mpr ⟨content, listed⟩, rfl⟩

theorem mem_groups {directory : Location} :
    directory ∈ ((tree.walk root base).filter (·.isGroup)).map Visit.directory ↔
      tree.Entered root base directory ∧ directory.any isCatalog = true ∧
        isImageSet (fileNameOf directory) = true := by
  simp only [List.mem_map, List.mem_filter, mem_walk, Visit.isGroup, Visit.isInCatalog,
    Bool.and_eq_true]
  constructor
  · intro found
    obtain ⟨visit, ⟨⟨entered, _⟩, group⟩, rfl⟩ := found
    exact ⟨entered, group⟩
  · intro found
    exact ⟨.of tree base directory, ⟨⟨found.1, rfl⟩, found.2⟩, rfl⟩

section Order

variable (distinct : (tree.entries.map Prod.fst).Nodup)

include distinct

theorem strict_childNames (directory : Location) {name? : String × Entry → Option String}
    (named : ∀ child name, name? child = some name → child.1 = name) :
    (Text.sorted ((tree.children directory).filterMap name?)).Pairwise (· < ·) := by
  refine Text.sorted_strict ?_
  refine (List.pairwise_map.mp (nodup_childNames distinct directory)).filterMap _ ?_
  intro first second different name found other listed same
  rw [named first name found, named second other listed] at different
  exact different same

theorem strict_openDirectories (directory : Location) :
    (Text.sorted ((tree.children directory).filterMap openDirectory?)).Pairwise (· < ·) := by
  refine strict_childNames distinct directory fun (child, entry) name found => ?_
  cases entry with
  | file content => cases found
  | directory => exact Option.some.inj (Option.ite_none_left_eq_some.mp found).2

theorem strict_fileNames (directory : Location) :
    (Visit.of tree base directory).fileNames.Pairwise (· < ·) := by
  refine strict_childNames distinct (base ++ directory) fun (child, entry) name found => ?_
  cases entry with
  | file content => exact Option.some.inj found
  | directory => cases found

end Order

theorem below_of_mem_walkFrom {levels : Nat} {directory : Location} {visit : Visit}
    (member : visit ∈ tree.walkFrom root base levels directory) :
    ∃ rest, visit.directory = directory ++ rest := by
  induction levels generalizing directory with
  | zero => cases member
  | succ levels ih =>
      obtain ⟨_, rfl | ⟨name, _, _, further⟩⟩ := mem_walkFrom_succ.mp member
      · exact ⟨[], (List.append_nil directory).symm⟩
      · obtain ⟨rest, shape⟩ := ih further
        exact ⟨name :: rest, by rw [shape, List.append_assoc, List.singleton_append]⟩

/-- A relation holds between any two visits in their order if it holds between a directory and what
is in it, and between two of its directories by their names. -/
theorem walkFrom_pairwise (distinct : (tree.entries.map Prod.fst).Nodup)
    {before : Visit → Visit → Prop}
    (inside : ∀ first second : Visit, ∀ name rest,
      second.directory = first.directory ++ name :: rest → before first second)
    (beside : ∀ first second : Visit, ∀ directory name other rest others, name < other →
      first.directory = directory ++ name :: rest →
        second.directory = directory ++ other :: others → before first second)
    (levels : Nat) (directory : Location) :
    (tree.walkFrom root base levels directory).Pairwise before := by
  have below : ∀ {levels : Nat} {directory : Location} {name : String} {visit : Visit},
      visit ∈ tree.walkFrom root base levels (directory ++ [name]) →
        ∃ rest, visit.directory = directory ++ name :: rest := by
    intro levels directory name visit member
    obtain ⟨rest, shape⟩ := below_of_mem_walkFrom member
    exact ⟨rest, by rw [shape, List.append_assoc, List.singleton_append]⟩
  induction levels generalizing directory with
  | zero => exact List.Pairwise.nil
  | succ levels ih =>
      rw [walkFrom]
      split
      · refine List.pairwise_cons.mpr ⟨?_, List.pairwise_flatMap.mpr ⟨fun name _ => ih _, ?_⟩⟩
        · intro visit member
          obtain ⟨name, _, further⟩ := List.mem_flatMap.mp member
          obtain ⟨rest, shape⟩ := below further
          exact inside _ visit name rest shape
        · refine (strict_openDirectories distinct _).imp fun {name other} less => ?_
          intro first inFirst second inSecond
          obtain ⟨rest, shape⟩ := below inFirst
          obtain ⟨others, otherShape⟩ := below inSecond
          exact beside first second directory name other rest others less shape otherShape
      · exact List.Pairwise.nil

/-- A directory comes before those in it, and siblings ascend by name. -/
theorem walk_ascending (distinct : (tree.entries.map Prod.fst).Nodup) :
    (tree.walk root base).Pairwise fun first second => first.directory < second.directory := by
  refine walkFrom_pairwise distinct ?_ ?_ _ _
  · intro first second name rest shape
    have longer : first.directory ++ [] < first.directory ++ name :: rest :=
      List.append_left_lt (List.nil_lt_cons name rest)
    rwa [List.append_nil, ← shape] at longer
  · intro first second directory name other rest others less shape otherShape
    rw [shape, otherShape]
    exact List.append_left_lt (List.cons_lt_cons_iff.mpr (Or.inl less))

theorem groups_ascending (distinct : (tree.entries.map Prod.fst).Nodup) :
    (((tree.walk root base).filter (·.isGroup)).map Visit.directory).Pairwise (· < ·) :=
  List.pairwise_map.mpr ((walk_ascending distinct).filter _)

theorem filesOutsideCatalogs_ascending (distinct : (tree.entries.map Prod.fst).Nodup) :
    (filesOutsideCatalogs (tree.walk root base)).Pairwise WalksBefore := by
  have across : (tree.walk root base).Pairwise fun first second =>
      ∀ file ∈ first.files, ∀ other ∈ second.files, WalksBefore file other := by
    refine walkFrom_pairwise distinct ?_ ?_ _ _
    · intro first second name rest shape file inFirst other inSecond
      obtain ⟨fileName, _, rfl⟩ := List.mem_map.mp inFirst
      obtain ⟨otherName, _, rfl⟩ := List.mem_map.mp inSecond
      rw [shape, List.append_assoc]
      exact WalksBefore.append (by cases rest <;> trivial) first.directory
    · intro first second directory name other rest others less shape otherShape
        file inFirst otherFile inSecond
      obtain ⟨fileName, _, rfl⟩ := List.mem_map.mp inFirst
      obtain ⟨otherName, _, rfl⟩ := List.mem_map.mp inSecond
      rw [shape, otherShape, List.append_assoc, List.append_assoc]
      refine WalksBefore.append ?_ directory
      cases rest <;> cases others <;> exact Or.inl less
  refine List.pairwise_flatMap.mpr ⟨?_, across.filter _⟩
  intro visit member
  rw [(mem_walk.mp (List.mem_of_mem_filter member)).2, Visit.files, List.pairwise_map]
  exact (strict_fileNames distinct visit.directory).imp fun less => WalksBefore.append less _

section Growth

variable {wider : FileTree} (kept : ∀ entry ∈ tree.entries, entry ∈ wider.entries)

include kept

theorem Entered.mono {directory : Location} (entered : tree.Entered root base directory) :
    wider.Entered root base directory := by
  induction entered with
  | start => exact .start
  | child _ listed visible walkable ih => exact .child ih (kept _ listed) visible walkable

theorem filesOutsideCatalogs_mono {place : Location}
    (member : place ∈ filesOutsideCatalogs (tree.walk root base)) :
    place ∈ filesOutsideCatalogs (wider.walk root base) := by
  obtain ⟨directory, name, content, rfl, listed, entered, outside⟩ :=
    mem_filesOutsideCatalogs.mp member
  exact mem_filesOutsideCatalogs.mpr
    ⟨directory, name, content, rfl, kept _ listed, entered.mono kept, outside⟩

theorem groups_mono {directory : Location}
    (member : directory ∈ ((tree.walk root base).filter (·.isGroup)).map Visit.directory) :
    directory ∈ ((wider.walk root base).filter (·.isGroup)).map Visit.directory := by
  rw [mem_groups] at member ⊢
  exact ⟨member.1.mono kept, member.2⟩

end Growth

/-- The path to a directory is longer than that to the one around it. -/
theorem isWalkable_above {directory : Location} {name : String} (rootNonempty : root ≠ "")
    (proper : ∀ other ∈ directory ++ [name], IsProperName other)
    (walkable : isWalkable root (directory ++ [name]) = true) :
    isWalkable root directory = true := by
  by_cases top : directory = []
  · rw [top]
    rfl
  · have longer := joinPaths_concat rootNonempty top proper
    rw [isWalkable, longer] at walkable
    have short : fits (joinPaths root (relativePath directory) ++ "/" ++ name) = true := by
      simpa using walkable
    simp only [fits, decide_eq_true_eq, String.utf8ByteSize_append] at short
    have shorter : fits (joinPaths root (relativePath directory)) = true := by
      simp only [fits, decide_eq_true_eq]
      omega
    rw [isWalkable, shorter, Bool.or_true]

theorem Entered.visible {directory : Location} (entered : tree.Entered root base directory) :
    ∀ name ∈ directory, isHidden name = false := by
  induction entered with
  | start => simp
  | child _ _ visible _ ih =>
      intro name member
      rcases List.mem_append.mp member with above | last
      · exact ih name above
      · exact List.mem_singleton.mp last ▸ visible

theorem Entered.walkable {directory : Location} (entered : tree.Entered root base directory) :
    isWalkable root directory = true := by
  cases entered with
  | start => rfl
  | child _ _ _ walkable => exact walkable

theorem Entered.listed {directory : Location} (entered : tree.Entered root base directory)
    (nonempty : directory ≠ []) : (base ++ directory, Entry.directory) ∈ tree.entries := by
  cases entered with
  | start => exact absurd rfl nonempty
  | child _ listed _ _ => rwa [← List.append_assoc]

/-- On a disk a directory can be entered unless a part of the way is hidden or the path is too
long. -/
theorem IsProper.entered (proper : tree.IsProper) (rootNonempty : root ≠ "") {directory : Location}
    (listed : directory ≠ [] → (base ++ directory, Entry.directory) ∈ tree.entries)
    (visible : ∀ name ∈ directory, isHidden name = false)
    (walkable : isWalkable root directory = true) : tree.Entered root base directory := by
  induction directory using List.reverseRecOn with
  | nil => exact .start
  | append_singleton above name ih =>
      have member : (base ++ above ++ [name], Entry.directory) ∈ tree.entries := by
        rw [List.append_assoc]
        exact listed (by simp)
      have properNames : ∀ other ∈ above ++ [name], IsProperName other := by
        intro other among
        refine proper.named _ member other ?_
        rw [List.append_assoc]
        exact List.mem_append_right _ among
      refine .child (ih (fun nonempty => proper.parent_mem member (by simp [nonempty]))
        (fun other among => visible other (List.mem_append_left _ among))
        (isWalkable_above rootNonempty properNames walkable))
        member (visible name (by simp)) walkable

theorem IsProper.mem_filesOutsideCatalogs (proper : tree.IsProper) (rootNonempty : root ≠ "")
    {place : Location} :
    place ∈ filesOutsideCatalogs (tree.walk root base) ↔
      (∃ content, (base ++ place, Entry.file content) ∈ tree.entries) ∧ place ≠ [] ∧
        isConsidered place = true ∧ isWalkable root place.dropLast = true := by
  rw [FileTree.mem_filesOutsideCatalogs]
  constructor
  · intro found
    obtain ⟨directory, name, content, rfl, listed, entered, outside⟩ := found
    rw [List.append_assoc] at listed
    refine ⟨⟨content, listed⟩, by simp, ?_, by simpa using entered.walkable⟩
    rw [isConsidered, List.dropLast_concat, List.all_eq_true]
    intro other above
    simp [entered.visible other above, List.any_eq_false.mp outside other above]
  · intro found
    obtain ⟨⟨content, listed⟩, nonempty, considered, walkable⟩ := found
    obtain ⟨directory, name, rfl⟩ : ∃ directory name, place = directory ++ [name] :=
      ⟨_, _, (List.dropLast_append_getLast nonempty).symm⟩
    rw [isConsidered, List.dropLast_concat, List.all_eq_true] at considered
    rw [List.dropLast_concat] at walkable
    rw [← List.append_assoc] at listed
    have visible : ∀ other ∈ directory, isHidden other = false := fun other above => by
      simpa using (Bool.and_eq_true_iff.mp (considered other above)).1
    have outside : directory.any isCatalog = false := List.any_eq_false.mpr fun other above => by
      simpa using (Bool.and_eq_true_iff.mp (considered other above)).2
    refine ⟨directory, name, content, rfl, listed, proper.entered rootNonempty (fun below => ?_)
      visible walkable, outside⟩
    exact proper.parent_mem listed (by simp [below])

theorem IsProper.mem_groups (proper : tree.IsProper) (rootNonempty : root ≠ "")
    {directory : Location} :
    directory ∈ ((tree.walk root base).filter (·.isGroup)).map Visit.directory ↔
      (base ++ directory, Entry.directory) ∈ tree.entries ∧ isCatalogGroup directory = true ∧
        isWalkable root directory = true := by
  rw [FileTree.mem_groups]
  simp only [isCatalogGroup, Bool.and_eq_true, List.all_eq_true, Bool.not_eq_true']
  constructor
  · intro found
    obtain ⟨entered, catalog, imageSet⟩ := found
    have nonempty : directory ≠ [] := by
      rintro rfl
      cases catalog
    exact ⟨entered.listed nonempty, ⟨⟨entered.visible, catalog⟩, imageSet⟩, entered.walkable⟩
  · intro found
    obtain ⟨listed, ⟨⟨visible, catalog⟩, imageSet⟩, walkable⟩ := found
    exact ⟨proper.entered rootNonempty (fun _ => listed) visible walkable, catalog, imageSet⟩

end FileTree

namespace SourceTree

theorem scan_eq (workspace : Workspace) (root : String) (fallbackExtensions : List String) :
    scan workspace root fallbackExtensions =
      match workspace.files.locate workspace.directory root with
      | .error _ => .error (.notADirectory root)
      | .ok base =>
          if workspace.files.isDirectory base then
            if (workspace.place? root).isSome then
              .ok (ofVisits root fallbackExtensions (workspace.files.walk root base))
            else .error .directoryGone
          else .error (.notADirectory root) := by
  unfold scan
  cases workspace.files.locate workspace.directory root with
  | error failure => rfl
  | ok base =>
      cases directory : workspace.files.isDirectory base with
      | false =>
          simp [Except.toOption, directory, throw, throwThe, MonadExceptOf.throw, bind, Except.bind]
      | true =>
          cases place : workspace.place? root with
          | none =>
              simp [Except.toOption, directory, throw, throwThe, MonadExceptOf.throw, Functor.map,
                Except.map]
          | some _ => simp [Except.toOption, directory, pure, Except.pure]

theorem scan_eq_ok {workspace : Workspace} {root : String}
    {fallbackExtensions : List String} {tree : SourceTree} :
    scan workspace root fallbackExtensions = .ok tree ↔
      ∃ base, workspace.files.locate workspace.directory root = .ok base ∧
        workspace.files.isDirectory base = true ∧ (workspace.place? root).isSome = true ∧
        tree = ofVisits root fallbackExtensions (workspace.files.walk root base) := by
  rw [scan_eq]
  constructor
  · intro scanned
    split at scanned
    · cases scanned
    · rename_i base located
      split at scanned
      · rename_i directory
        split at scanned
        · rename_i placed
          exact ⟨base, located, directory, placed, (Except.ok.inj scanned).symm⟩
        · cases scanned
      · cases scanned
  · intro scanned
    obtain ⟨base, located, directory, placed, rfl⟩ := scanned
    simp only [located, directory, placed, if_true]

end SourceTree

end AssetAudit
