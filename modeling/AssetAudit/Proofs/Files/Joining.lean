import AssetAudit.Proofs.Files.Paths

namespace AssetAudit

/-! Paths that are joined to the place of a directory lead where they lead from the directory. -/

namespace Location

variable {directory : Location} {path : String}

theorem foldl_move_filter (parts : List String) :
    (parts.filter fun part => part ≠ "" ∧ part ≠ ".").foldl move directory =
      parts.foldl move directory := by
  induction parts generalizing directory with
  | nil => rfl
  | cons part rest ih =>
      rw [List.filter_cons]
      split
      · exact ih
      · rename_i stays
        have same : directory.move part = directory := by
          rw [move, if_pos]
          simp only [decide_eq_true_eq] at stays
          by_cases empty : part = ""
          · exact Or.inl empty
          · exact Or.inr (Decidable.byContradiction fun here => stays ⟨empty, here⟩)
        rw [List.foldl_cons, same]
        exact ih

theorem foldl_move_proper {names : Location} (proper : ∀ name ∈ names, IsProperName name) :
    names.foldl move directory = directory ++ names := by
  induction names generalizing directory with
  | nil => simp
  | cons name rest ih =>
      rw [List.foldl_cons, move_proper (proper name (by simp)),
        ih fun other later => proper other (List.mem_cons_of_mem name later), List.append_assoc]
      rfl

theorem move_isProper {here : Location} {part : String}
    (proper : ∀ name ∈ here, IsProperName name) (noSlash : '/' ∉ part.toList) :
    ∀ name ∈ here.move part, IsProperName name := by
  intro name member
  unfold move at member
  split at member
  · exact proper name member
  · rename_i moves
    split at member
    · exact proper name (List.mem_of_mem_dropLast member)
    · rename_i notAbove
      rcases List.mem_append.mp member with old | new
      · exact proper name old
      · obtain rfl := List.mem_singleton.mp new
        exact ⟨fun empty => moves (Or.inl empty), fun dot => moves (Or.inr dot), notAbove, noSlash⟩

theorem ofPath_isProper (proper : ∀ name ∈ directory, IsProperName name) :
    ∀ name ∈ ofPath directory path, IsProperName name := by
  have moved : ∀ (parts : List String) (here : Location), (∀ part ∈ parts, '/' ∉ part.toList) →
      (∀ name ∈ here, IsProperName name) →
        ∀ name ∈ parts.foldl move here, IsProperName name := by
    intro parts
    induction parts with
    | nil => exact fun _ _ named => named
    | cons part rest ih =>
        intro here noSlash named
        exact ih _ (fun other later => noSlash other (List.mem_cons_of_mem part later))
          (move_isProper named (noSlash part (by simp)))
  -- the walk starts at the top for an absolute path, else in the directory
  refine moved _ _ (fun part => pathParts_noSlash) ?_
  split
  · exact fun name member => absurd member List.not_mem_nil
  · exact proper

theorem mem_foldl_move {here : Location} {parts : List String} {name : String}
    (member : name ∈ parts.foldl move here) : name ∈ here ∨ name ∈ parts := by
  induction parts generalizing here with
  | nil => exact Or.inl member
  | cons part rest ih =>
      rcases ih member with moved | later
      · unfold move at moved
        split at moved
        · exact Or.inl moved
        · split at moved
          · exact Or.inl (List.mem_of_mem_dropLast moved)
          · rcases List.mem_append.mp moved with old | new
            · exact Or.inl old
            · exact Or.inr (List.mem_singleton.mp new ▸ List.mem_cons_self)
      · exact Or.inr (List.mem_cons_of_mem part later)

theorem mem_ofPath {name : String} (member : name ∈ ofPath directory path) :
    name ∈ directory ∨ name ∈ pathParts path := by
  rcases mem_foldl_move member with above | below
  · split at above
    · exact absurd above List.not_mem_nil
    · exact Or.inl above
  · exact Or.inr below

theorem toList_text (location : Location) :
    location.text.toList = '/' :: (String.intercalate "/" location).toList := by
  simp [text]

end Location

theorem nulFree_intercalate {names : List String} (plain : ∀ name ∈ names, '\x00' ∉ name.toList) :
    '\x00' ∉ (String.intercalate "/" names).toList := by
  rw [String.toList_intercalate]
  exact Text.not_mem_intercalate (by decide) (List.forall_mem_map.mpr plain)

namespace CleanPath

variable {directory : Location} {path : String}

theorem pathParts_rooted {parts : List String} (noSlash : ∀ part ∈ parts, '/' ∉ part.toList) :
    pathParts ("/" ++ String.intercalate "/" parts) = "" :: if parts = [] then [""] else parts := by
  have apart := pathParts_append_slash "" (String.intercalate "/" parts)
  rw [String.empty_append] at apart
  rw [apart]
  split
  · rename_i empty
    subst empty
    rfl
  · rename_i nonempty
    rw [pathParts_intercalate nonempty noSlash]
    rfl

theorem head?_intercalate (proper : ∀ name ∈ directory, IsProperName name) :
    (String.intercalate "/" directory).toList.head? ≠ some '/' := by
  rw [String.toList_intercalate]
  cases directory with
  | nil => simp
  | cons name rest =>
      have named := proper name (by simp)
      cases characters : name.toList with
      | nil => exact absurd (String.toList_eq_nil_iff.mp characters) named.nonempty
      | cons c chars =>
          have other : c ≠ '/' := fun same => named.noSlash (by simp [characters, same])
          cases rest with
          | nil => simpa [characters] using other
          | cons next others => simpa [characters] using other

/-- The place of a directory as a clean path. -/
theorem ofText_text (proper : ∀ name ∈ directory, IsProperName name) :
    ofText directory.text = ⟨"/", directory⟩ := by
  have oneSlash : rootOf directory.text.toList = "/" := by
    rw [Location.toList_text, rootOf, List.takeWhile_cons_of_pos (by simp)]
    cases characters : (String.intercalate "/" directory).toList with
    | nil => rfl
    | cons c chars =>
        have other : c ≠ '/' := by
          rintro rfl
          exact head?_intercalate proper (by rw [characters]; rfl)
        rw [List.takeWhile_cons_of_neg (by simpa using other)]
        rfl
  have keeps : directory.filter (fun part => part ≠ "" ∧ part ≠ ".") = directory :=
    List.filter_eq_self.mpr fun name among => by
      simp [(proper name among).nonempty, (proper name among).notHere]
  rw [ofText, oneSlash, Location.text,
    pathParts_rooted fun name among => (proper name among).noSlash]
  split
  · rename_i empty
    subst empty
    rfl
  · rw [List.filter_cons_of_neg (by simp), keeps]

theorem ofText_relative (relative : isAbsolutePath path = false) :
    ofText path = ⟨"", (pathParts path).filter fun part => part ≠ "" ∧ part ≠ "."⟩ := by
  have noSlashes : rootOf path.toList = "" := by
    cases characters : path.toList with
    | nil => rfl
    | cons c rest =>
        have other : c ≠ '/' := by
          rintro rfl
          rw [isAbsolutePath, characters] at relative
          cases relative
        rw [rootOf, List.takeWhile_cons_of_neg (by simpa using other)]
        rfl
  rw [ofText, noSlashes]

/-- A relative path that is joined to a directory leads where it leads from there. -/
theorem ofPath_join (proper : ∀ name ∈ directory, IsProperName name)
    (relative : isAbsolutePath path = false) :
    isAbsolutePath ((ofText directory.text).join (ofText path)).text = true ∧
      Location.ofPath [] ((ofText directory.text).join (ofText path)).text =
        Location.ofPath directory path := by
  let named := (pathParts path).filter fun part => part ≠ "" ∧ part ≠ "."
  have joined : ((ofText directory.text).join (ofText path)).text =
      "/" ++ String.intercalate "/" (directory ++ named) := by
    rw [ofText_text proper, ofText_relative relative]
    simp [join, isAbsolute, text, named]
  have absolute : isAbsolutePath ("/" ++ String.intercalate "/" (directory ++ named)) = true := by
    simp [isAbsolutePath]
  have noSlash : ∀ part ∈ directory ++ named, '/' ∉ part.toList := by
    intro part member
    rcases List.mem_append.mp member with above | below
    · exact (proper part above).noSlash
    · exact pathParts_noSlash (List.mem_of_mem_filter below)
  rw [joined]
  refine ⟨absolute, ?_⟩
  calc
    Location.ofPath [] ("/" ++ String.intercalate "/" (directory ++ named))
        = (directory ++ named).foldl Location.move [] := by
          rw [Location.ofPath, if_pos absolute, pathParts_rooted noSlash]
          split
          · rename_i empty
            rw [empty]
            rfl
          · rfl
    _ = named.foldl Location.move directory := by
          rw [List.foldl_append, Location.foldl_move_proper proper, List.nil_append]
    _ = Location.ofPath directory path := by
          rw [Location.foldl_move_filter, Location.ofPath, if_neg (by simp [relative])]

end CleanPath

theorem place?_isProper {workspace : Workspace} {path : String} {place : Location}
    (proper : ∀ name ∈ workspace.directory, IsProperName name)
    (placed : workspace.place? path = some place) : ∀ name ∈ place, IsProperName name := by
  unfold Workspace.place? at placed
  split at placed
  · obtain rfl := Option.some.inj placed
    exact Location.ofPath_isProper fun name member => absurd member List.not_mem_nil
  · split at placed
    · cases placed
    · obtain rfl := Option.some.inj placed
      exact Location.ofPath_isProper proper

end AssetAudit
