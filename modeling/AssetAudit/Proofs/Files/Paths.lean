import AssetAudit.Project.SourceTree
import AssetAudit.Proofs.Files.Proper
import AssetAudit.Proofs.Files.Writing
import AssetAudit.Proofs.Text.Pieces

namespace AssetAudit

/-! A path below a directory leads where its names say, and what else a tree holds does not
matter. -/

theorem pathParts_append_slash (path rest : String) :
    pathParts (path ++ "/" ++ rest) = pathParts path ++ pathParts rest := by
  have characters : (path ++ "/" ++ rest).toList = path.toList ++ '/' :: rest.toList := by simp
  rw [pathParts, characters, Text.pieces_append, List.map_append]
  rfl

theorem pathParts_intercalate {parts : List String} (nonempty : parts ≠ [])
    (noSlash : ∀ part ∈ parts, '/' ∉ part.toList) :
    pathParts (String.intercalate "/" parts) = parts := by
  have characters : (String.intercalate "/" parts).toList =
      ['/'].intercalate (parts.map String.toList) := String.toList_intercalate
  have plain : ∀ part ∈ parts.map String.toList, '/' ∉ part := by
    intro part member
    obtain ⟨owner, among, rfl⟩ := List.mem_map.mp member
    exact noSlash owner among
  rw [pathParts, characters, Text.pieces_intercalate (by simpa using nonempty) plain]
  simp

theorem pathParts_relativePath {names : Location} (nonempty : names ≠ [])
    (proper : ∀ name ∈ names, IsProperName name) : pathParts (relativePath names) = names :=
  pathParts_intercalate nonempty fun name among => (proper name among).noSlash

theorem pathParts_noSlash {path part : String} (member : part ∈ pathParts path) :
    '/' ∉ part.toList := by
  obtain ⟨piece, among, rfl⟩ := List.mem_map.mp member
  exact String.toList_ofList ▸ Text.not_mem_of_mem_pieces among

/-- The parts of a path that move on. -/
def namingParts (path : String) : List String := (pathParts path).filter (· ≠ "")

theorem pathParts_ne_nil (path : String) : pathParts path ≠ [] := by
  simpa [pathParts] using Text.pieces_ne_nil path.toList

theorem stepsOf_of_last {path : String} {before : List String} {last : String}
    (parts : pathParts path = before ++ [last]) :
    FileTree.stepsOf path = before.filter (· ≠ "") ++ [if last = "" then "." else last] := by
  simp [FileTree.stepsOf, parts]

/-- Behind another path the names are the steps to the end. -/
theorem stepsOf_append {path rest : String} {names : Location} (parts : pathParts rest = names)
    (nonempty : names ≠ []) (proper : ∀ name ∈ names, IsProperName name) :
    FileTree.stepsOf (path ++ "/" ++ rest) = namingParts path ++ names := by
  obtain ⟨before, last, rfl⟩ : ∃ before last, names = before ++ [last] :=
    ⟨_, _, (List.dropLast_append_getLast nonempty).symm⟩
  have lastNonempty : last ≠ "" := (proper last (by simp)).nonempty
  have kept : before.filter (· ≠ "") = before := by
    rw [List.filter_eq_self]
    intro name member
    simpa using (proper name (by simp [member])).nonempty
  have joined : pathParts (path ++ "/" ++ rest) = (pathParts path ++ before) ++ [last] := by
    rw [pathParts_append_slash, parts, List.append_assoc]
  rw [stepsOf_of_last joined, List.filter_append, kept, if_neg lastNonempty, namingParts,
    List.append_assoc]

theorem isAbsolutePath_relativePath {names : Location} (nonempty : names ≠ [])
    (proper : ∀ name ∈ names, IsProperName name) : isAbsolutePath (relativePath names) = false := by
  cases absolute : isAbsolutePath (relativePath names) with
  | false => rfl
  | true =>
      obtain ⟨rest, equal⟩ := List.isPrefixOf_iff_prefix.mp absolute
      have parts := pathParts_relativePath nonempty proper
      rw [pathParts, ← equal, List.singleton_append, Text.pieces, if_pos rfl] at parts
      exact absurd rfl (proper "" (by rw [← parts]; simp)).nonempty

theorem isAbsolutePath_name {name : String} (proper : IsProperName name) :
    isAbsolutePath name = false := by
  have relative : isAbsolutePath (relativePath [name]) = false :=
    isAbsolutePath_relativePath (by simp) (by simpa using proper)
  exact relative

theorem joinPaths_eq {root path : String} (nonempty : root ≠ "")
    (relative : isAbsolutePath path = false) :
    joinPaths root path =
      if root.toList.getLast? = some '/' then root ++ path else root ++ "/" ++ path := by
  simp [joinPaths, relative, nonempty]

theorem isAbsolutePath_append {root : String} (nonempty : root ≠ "") (path : String) :
    isAbsolutePath (root ++ path) = isAbsolutePath root := by
  unfold isAbsolutePath
  rw [String.toList_append]
  cases characters : root.toList with
  | nil => exact absurd (String.toList_eq_nil_iff.mp characters) nonempty
  | cons c rest => simp [List.isPrefixOf]

theorem isAbsolutePath_joinPaths {root path : String} (nonempty : root ≠ "")
    (relative : isAbsolutePath path = false) :
    isAbsolutePath (joinPaths root path) = isAbsolutePath root := by
  rw [joinPaths_eq nonempty relative]
  split
  · exact isAbsolutePath_append nonempty path
  · rw [String.append_assoc, isAbsolutePath_append nonempty]

theorem joinPaths_ne_empty {root path : String} (nonempty : root ≠ "")
    (relative : isAbsolutePath path = false) : joinPaths root path ≠ "" := by
  rw [joinPaths_eq nonempty relative]
  split
  · simp [nonempty]
  · simp [nonempty]

/-- The steps along a joined path are those of the first one, without a stop at its end, and the
names behind. -/
theorem stepsOf_joinPaths {root : String} {names : Location} (rootNonempty : root ≠ "")
    (nonempty : names ≠ []) (proper : ∀ name ∈ names, IsProperName name) :
    FileTree.stepsOf (joinPaths root (relativePath names)) = namingParts root ++ names := by
  have parts := pathParts_relativePath nonempty proper
  rw [joinPaths_eq rootNonempty (isAbsolutePath_relativePath nonempty proper)]
  split
  · rename_i slash
    obtain ⟨before, characters⟩ := List.getLast?_eq_some_iff.mp slash
    have cut : root = String.ofList before ++ "/" := by
      apply String.toList_injective
      rw [characters, String.toList_append, String.toList_ofList]
      rfl
    have rootParts : pathParts root = pathParts (String.ofList before) ++ [""] := by
      have ended := pathParts_append_slash (String.ofList before) ""
      rwa [String.append_empty, ← cut] at ended
    have same : namingParts root = namingParts (String.ofList before) := by
      simp [namingParts, rootParts]
    have joined : root ++ relativePath names =
        String.ofList before ++ "/" ++ relativePath names := by rw [← cut]
    rw [joined, stepsOf_append parts nonempty proper, same]
  · exact stepsOf_append parts nonempty proper

theorem relativePath_concat {names : Location} (nonempty : names ≠ []) (name : String) :
    relativePath (names ++ [name]) = relativePath names ++ "/" ++ name := by
  unfold relativePath
  induction names with
  | nil => exact absurd rfl nonempty
  | cons first rest ih =>
      cases rest with
      | nil => simp [String.intercalate_cons_cons]
      | cons second others =>
          rw [List.cons_append, List.cons_append, String.intercalate_cons_cons,
            String.intercalate_cons_cons, ← List.cons_append, ih (by simp)]
          simp only [String.append_assoc]

theorem relativePath_no_end_slash {names : Location} (nonempty : names ≠ [])
    (proper : ∀ name ∈ names, IsProperName name) :
    (relativePath names).toList.getLast? ≠ some '/' := by
  intro slash
  obtain ⟨before, characters⟩ := List.getLast?_eq_some_iff.mp slash
  have parts := pathParts_relativePath nonempty proper
  rw [pathParts, characters, Text.pieces_append, List.map_append] at parts
  exact (proper "" (by rw [← parts]; simp [Text.pieces])).nonempty rfl

theorem joinPaths_no_end_slash {root : String} {names : Location} (rootNonempty : root ≠ "")
    (nonempty : names ≠ []) (proper : ∀ name ∈ names, IsProperName name) :
    (joinPaths root (relativePath names)).toList.getLast? ≠ some '/' := by
  have some : (relativePath names).toList ≠ [] := by
    intro empty
    have parts := pathParts_relativePath nonempty proper
    rw [pathParts, empty] at parts
    exact (proper "" (by rw [← parts]; simp [Text.pieces])).nonempty rfl
  have last := relativePath_no_end_slash nonempty proper
  rw [joinPaths_eq rootNonempty (isAbsolutePath_relativePath nonempty proper)]
  split
  · rwa [String.toList_append, List.getLast?_append_of_ne_nil _ some]
  · rwa [String.toList_append, List.getLast?_append_of_ne_nil _ some]

theorem joinPaths_joinPaths {root name : String} {names : Location} (rootNonempty : root ≠ "")
    (nonempty : names ≠ []) (proper : ∀ other ∈ names ++ [name], IsProperName other) :
    joinPaths (joinPaths root (relativePath names)) name =
      joinPaths root (relativePath (names ++ [name])) := by
  have properNames : ∀ other ∈ names, IsProperName other :=
    fun other among => proper other (List.mem_append_left _ among)
  rw [joinPaths_eq (joinPaths_ne_empty rootNonempty
      (isAbsolutePath_relativePath nonempty properNames))
      (isAbsolutePath_name (proper name (by simp))),
    if_neg (joinPaths_no_end_slash rootNonempty nonempty properNames),
    joinPaths_eq rootNonempty (isAbsolutePath_relativePath nonempty properNames),
    joinPaths_eq rootNonempty (isAbsolutePath_relativePath (by simp) proper),
    relativePath_concat nonempty]
  split <;> simp only [String.append_assoc]

/-- Below the root a path grows by a slash and a name. -/
theorem joinPaths_concat {root name : String} {names : Location} (rootNonempty : root ≠ "")
    (nonempty : names ≠ []) (proper : ∀ other ∈ names ++ [name], IsProperName other) :
    joinPaths root (relativePath (names ++ [name])) =
      joinPaths root (relativePath names) ++ "/" ++ name := by
  have properNames : ∀ other ∈ names, IsProperName other :=
    fun other among => proper other (List.mem_append_left _ among)
  rw [← joinPaths_joinPaths rootNonempty nonempty proper,
    joinPaths_eq (joinPaths_ne_empty rootNonempty
      (isAbsolutePath_relativePath nonempty properNames))
      (isAbsolutePath_name (proper name (by simp))),
    if_neg (joinPaths_no_end_slash rootNonempty nonempty properNames)]

theorem last_relativePath {names : Location} (nonempty : names ≠ [])
    (proper : ∀ name ∈ names, IsProperName name) :
    FileName.last (relativePath names) = fileNameOf names := by
  obtain ⟨above, name, rfl⟩ : ∃ above name, names = above ++ [name] :=
    ⟨_, _, (List.dropLast_append_getLast nonempty).symm⟩
  have plain : '/' ∉ name.toList := (proper name (by simp)).noSlash
  have named : fileNameOf (above ++ [name]) = name := by simp [fileNameOf]
  rw [named, FileName.last]
  by_cases top : above = []
  · have single : relativePath (above ++ [name]) = name := by simp [top, relativePath]
    rw [single, Text.afterLast_plain plain, String.ofList_toList]
  · have characters : (relativePath (above ++ [name])).toList =
        (relativePath above).toList ++ '/' :: name.toList := by
      simp [relativePath_concat top]
    rw [characters, Text.afterLast_append _ plain, String.ofList_toList]

namespace FileTree

variable {tree wider : FileTree} {here there : Location}

theorem step_eq_ok {part : String} (moved : tree.step here part = .ok there) :
    tree.entry? here = some .directory ∧ there = here.move part := by
  unfold step at moved
  split at moved
  · cases moved
  · cases moved
  · rename_i directory
    split at moved
    · cases moved
    · exact ⟨directory, (Except.ok.inj moved).symm⟩

/-- A stop at the end of a path changes nothing. -/
theorem foldlM_namingParts {path : String}
    (reached : (stepsOf path).foldlM tree.step here = .ok there) :
    (namingParts path).foldlM tree.step here = .ok there := by
  obtain ⟨before, last, parts⟩ : ∃ before last, pathParts path = before ++ [last] :=
    ⟨_, _, (List.dropLast_append_getLast (pathParts_ne_nil path)).symm⟩
  rw [stepsOf_of_last parts] at reached
  by_cases ended : last = ""
  · have naming : namingParts path = before.filter (· ≠ "") := by simp [namingParts, parts, ended]
    rw [if_pos ended, List.foldlM_append] at reached
    rw [naming]
    cases middle : (before.filter (· ≠ "")).foldlM tree.step here with
    | error failure =>
        rw [middle] at reached
        cases reached
    | ok place =>
        rw [middle] at reached
        have stop : tree.step place "." = .ok there := by
          simp only [List.foldlM_cons, List.foldlM_nil, bind_pure] at reached
          exact reached
        rw [(step_eq_ok stop).2]
        rfl
  · have naming : namingParts path = before.filter (· ≠ "") ++ [last] := by
      simp [namingParts, parts, ended]
    rwa [if_neg ended, ← naming] at reached

theorem locate_eq_ok {directory : Location} {path : String}
    (located : tree.locate directory path = .ok there) :
    path ≠ "" ∧ (stepsOf path).foldlM tree.step (if isAbsolutePath path then [] else directory) =
      .ok there := by
  unfold locate at located
  split at located
  · cases located
  · split at located
    · cases located
    · rename_i nonempty
      split at located
      · cases located
      · exact ⟨by simpa using nonempty, located⟩

/-- A path below a directory that was found leads further from there. -/
theorem locate_joinPaths {directory base : Location} {root : String} {names : Location}
    (located : tree.locate directory root = .ok base) (nonempty : names ≠ [])
    (proper : ∀ name ∈ names, IsProperName name) :
    tree.locate directory (joinPaths root (relativePath names)) =
      if (joinPaths root (relativePath names)).toList.contains '\x00' then .error .embeddedNul
      else if !fits (joinPaths root (relativePath names)) then .error .nameTooLong
      else names.foldlM tree.step base := by
  obtain ⟨rootNonempty, reached⟩ := locate_eq_ok located
  have relative := isAbsolutePath_relativePath nonempty proper
  have joinedNonempty : (joinPaths root (relativePath names)).isEmpty = false := by
    simpa using joinPaths_ne_empty rootNonempty relative
  unfold locate
  rw [joinedNonempty, isAbsolutePath_joinPaths rootNonempty relative,
    stepsOf_joinPaths rootNonempty nonempty proper, List.foldlM_append,
    foldlM_namingParts reached]
  rfl

theorem foldlM_step_names {names : Location} (proper : ∀ name ∈ names, IsProperName name)
    (reached : names.foldlM tree.step here = .ok there) : there = here ++ names := by
  induction names generalizing here with
  | nil => simpa using (Except.ok.inj reached).symm
  | cons name rest ih =>
      rw [List.foldlM_cons] at reached
      cases moved : tree.step here name with
      | error failure =>
          rw [moved] at reached
          cases reached
      | ok next =>
          rw [moved] at reached
          have properRest : ∀ other ∈ rest, IsProperName other :=
            fun other among => proper other (List.mem_cons_of_mem name among)
          have further := ih properRest reached
          rw [further, (step_eq_ok moved).2, Location.move_proper (proper name (by simp)),
            List.append_assoc, List.singleton_append]

/-- What leads to an entry of a directory leads to the directory first. -/
theorem locate_above {directory base : Location} {root name : String} {names : Location}
    (located : tree.locate directory root = .ok base) (nonempty : names ≠ [])
    (proper : ∀ other ∈ names ++ [name], IsProperName other)
    (reached :
      tree.locate directory (joinPaths root (relativePath (names ++ [name]))) = .ok there) :
    tree.locate directory (joinPaths root (relativePath names)) = .ok (base ++ names) ∧
      tree.entry? (base ++ names) = some .directory := by
  have properNames : ∀ other ∈ names, IsProperName other :=
    fun other among => proper other (List.mem_append_left _ among)
  have longer := joinPaths_concat (locate_eq_ok located).1 nonempty proper
  rw [locate_joinPaths located (by simp) proper] at reached
  split at reached
  · cases reached
  · rename_i plain
    split at reached
    · cases reached
    · rename_i short
      rw [List.foldlM_append] at reached
      cases moved : names.foldlM tree.step base with
      | error failure =>
          rw [moved] at reached
          cases reached
      | ok middle =>
          rw [moved] at reached
          obtain rfl := foldlM_step_names properNames moved
          have last : tree.step (base ++ names) name = .ok there := by
            simp only [List.foldlM_cons, List.foldlM_nil, bind_pure] at reached
            exact reached
          refine ⟨?_, (step_eq_ok last).1⟩
          have plainAbove :
              (joinPaths root (relativePath names)).toList.contains '\x00' = false := by
            rw [longer] at plain
            refine Bool.eq_false_iff.mpr fun inside => plain ?_
            rw [List.contains_iff_mem] at inside ⊢
            simp only [String.toList_append, List.mem_append]
            exact Or.inl (Or.inl inside)
          have shortAbove : fits (joinPaths root (relativePath names)) = true := by
            rw [longer] at short
            simp only [fits, String.utf8ByteSize_append, Bool.not_eq_true', decide_eq_false_iff_not,
              Decidable.not_not] at short
            exact decide_eq_true (by omega)
          rw [locate_joinPaths located nonempty properNames, plainAbove, shortAbove, moved]
          rfl

end FileTree

end AssetAudit
