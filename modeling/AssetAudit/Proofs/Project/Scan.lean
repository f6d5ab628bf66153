import AssetAudit.Proofs.Files.Keeping
import AssetAudit.Proofs.Project.Walk
import Mathlib.Data.List.Nodup

namespace AssetAudit

/-! The scan of a project tells every file that a walk can come to exactly once what it is.  The
order in which the disk lists its entries does not matter. -/

namespace FileTree

variable {tree listing : FileTree}

theorem keeps_of_perm (distinct : (tree.entries.map Prod.fst).Nodup)
    (reordered : listing.entries.Perm tree.entries) : tree.Keeps listing := by
  intro place entry found
  have listingDistinct := (reordered.map Prod.fst).nodup_iff.mpr distinct
  by_cases top : place = [] ∨ place.getLast? = some ""
  · have directory : ∀ other : FileTree, other.entry? place = some .directory := by
      intro other
      simp [FileTree.entry?, top]
    rw [directory] at found ⊢
    exact found
  · obtain ⟨nonempty, last⟩ := not_or.mp top
    have member := reordered.mem_iff.mpr (mem_entries_of_found nonempty last found)
    exact entry?_of_mem listingDistinct member nonempty last

theorem IsProper.not_file (proper : tree.IsProper) {place : Location} {content : List UInt8}
    (directory : tree.isDirectory place = true) : (place, Entry.file content) ∉ tree.entries := by
  intro member
  have found := proper.entry?_of_mem member
  rw [isDirectory_iff.mp directory] at found
  cases found

theorem filesOutsideCatalogs_perm (root : String) (base : Location)
    (distinct : (tree.entries.map Prod.fst).Nodup)
    (reordered : listing.entries.Perm tree.entries) :
    filesOutsideCatalogs (listing.walk root base) = filesOutsideCatalogs (tree.walk root base) := by
  have listingDistinct := (reordered.map Prod.fst).nodup_iff.mpr distinct
  exact Text.eq_of_strict_order (fun _ _ => WalksBefore.asymm)
    (filesOutsideCatalogs_ascending listingDistinct) (filesOutsideCatalogs_ascending distinct)
    fun _ => ⟨filesOutsideCatalogs_mono fun _ => reordered.mem_iff.mp,
      filesOutsideCatalogs_mono fun _ => reordered.mem_iff.mpr⟩

theorem groups_perm (root : String) (base : Location)
    (distinct : (tree.entries.map Prod.fst).Nodup)
    (reordered : listing.entries.Perm tree.entries) :
    ((listing.walk root base).filter (·.isGroup)).map Visit.directory =
      ((tree.walk root base).filter (·.isGroup)).map Visit.directory := by
  have listingDistinct := (reordered.map Prod.fst).nodup_iff.mpr distinct
  exact Text.eq_of_strict_order (fun _ _ => List.lt_asymm) (groups_ascending listingDistinct)
    (groups_ascending distinct)
    fun _ => ⟨groups_mono fun _ => reordered.mem_iff.mp, groups_mono fun _ => reordered.mem_iff.mpr⟩

end FileTree

/-- A file below the root of a project, in no hidden directory, in no catalog, and in a directory
that can be opened. -/
structure IsOpenFile (disk : FileTree) (root : String) (base place : Location) : Prop where
  listed : ∃ content, (base ++ place, Entry.file content) ∈ disk.entries
  considered : isConsidered place = true
  walkable : isWalkable root place.dropLast = true

/-- An image set below the root of a project, in a catalog, in no hidden directory, which can be
opened. -/
structure IsOpenGroup (disk : FileTree) (root : String) (base place : Location) : Prop where
  listed : (base ++ place, Entry.directory) ∈ disk.entries
  isGroup : isCatalogGroup place = true
  walkable : isWalkable root place = true

namespace IsOpenFile

variable {disk : FileTree} {root : String} {base place : Location}

theorem nonempty (file : IsOpenFile disk root base place) (proper : disk.IsProper)
    (directory : disk.isDirectory base = true) : place ≠ [] := by
  rintro rfl
  obtain ⟨content, listed⟩ := file.listed
  rw [List.append_nil] at listed
  exact proper.not_file directory listed

theorem proper (file : IsOpenFile disk root base place) (proper : disk.IsProper) :
    ∀ name ∈ place, IsProperName name := by
  obtain ⟨content, listed⟩ := file.listed
  exact fun name among => proper.named _ listed name (List.mem_append_right _ among)

theorem outside (file : IsOpenFile disk root base place) :
    place.dropLast.any isCatalog = false := by
  have considered := file.considered
  simp only [isConsidered, List.all_eq_true, Bool.and_eq_true, Bool.not_eq_true'] at considered
  exact List.any_eq_false.mpr fun name above => by simp [(considered name above).2]

end IsOpenFile

namespace IsOpenGroup

variable {disk : FileTree} {root : String} {base place : Location}

theorem inCatalog (group : IsOpenGroup disk root base place) : place.any isCatalog = true := by
  have isGroup := group.isGroup
  simp only [isCatalogGroup, Bool.and_eq_true] at isGroup
  exact isGroup.1.2

theorem nonempty (group : IsOpenGroup disk root base place) : place ≠ [] := by
  rintro rfl
  cases group.inCatalog

theorem proper (group : IsOpenGroup disk root base place) (proper : disk.IsProper) :
    ∀ name ∈ place, IsProperName name :=
  fun name among => proper.named _ group.listed name (List.mem_append_right _ among)

end IsOpenGroup

/-- A tree says of every file and every image set of a project once what it is. -/
structure SourceTree.Classifies (tree : SourceTree) (disk : FileTree) (root : String)
    (fallbackExtensions : List String) (base : Location) : Prop where
  rootKept : tree.root = root
  images : ∀ path, path ∈ tree.imagePaths ↔
    ∃ place, path = relativePath place ∧ IsOpenFile disk root base place ∧
      isAssetFile (fileNameOf place) = true
  imagesOnce : tree.imagePaths.Nodup
  texts : ∀ path category, (path, category) ∈ tree.textPaths ↔
    ∃ place, path = relativePath place ∧ IsOpenFile disk root base place ∧
      isAssetFile (fileNameOf place) = false ∧
      Category.ofFileName? fallbackExtensions (fileNameOf place) = some category
  textsOnce : (tree.textPaths.map Prod.fst).Nodup
  disjoint : ∀ path ∈ tree.imagePaths, path ∉ tree.textPaths.map Prod.fst
  groups : ∀ path, path ∈ tree.catalogGroups ↔
    ∃ place, path = relativePath place ∧ IsOpenGroup disk root base place
  groupsOnce : tree.catalogGroups.Nodup
  bundleImages : tree.bundleImages =
    (tree.imagePaths.filter fun path => (pathParts path).dropLast.any isBundle).map
      fun path => FileName.stem (FileName.last path)

theorem relativePath_inj {first second : Location} (firstNonempty : first ≠ [])
    (secondNonempty : second ≠ []) (firstProper : ∀ name ∈ first, IsProperName name)
    (secondProper : ∀ name ∈ second, IsProperName name)
    (same : relativePath first = relativePath second) : first = second := by
  rw [← pathParts_relativePath firstNonempty firstProper, same,
    pathParts_relativePath secondNonempty secondProper]

theorem nodup_map_relativePath {places : List Location} (distinct : places.Nodup)
    (nonempty : ∀ place ∈ places, place ≠ [])
    (proper : ∀ place ∈ places, ∀ name ∈ place, IsProperName name) :
    (places.map relativePath).Nodup :=
  List.Nodup.map_on (fun first inFirst second inSecond same =>
    relativePath_inj (nonempty first inFirst) (nonempty second inSecond) (proper first inFirst)
      (proper second inSecond) same) distinct

open FileTree

namespace SourceTree

theorem textAt?_eq_some {fallbackExtensions : List String} {place : Location} {path : String}
    {category : Category} :
    textAt? fallbackExtensions place = some (path, category) ↔
      path = relativePath place ∧ isAssetFile (fileNameOf place) = false ∧
        Category.ofFileName? fallbackExtensions (fileNameOf place) = some category := by
  unfold textAt?
  cases isAssetFile (fileNameOf place) with
  | true => simp
  | false =>
      cases Category.ofFileName? fallbackExtensions (fileNameOf place) with
      | none => simp
      | some found => simp [eq_comm]

theorem catalogGroups_eq (root : String) (fallbackExtensions : List String) (visits : List Visit) :
    (ofVisits root fallbackExtensions visits).catalogGroups =
      ((visits.filter (·.isGroup)).map Visit.directory).map relativePath :=
  (List.map_map ..).symm

theorem mem_imagePaths {root : String} {fallbackExtensions : List String} {visits : List Visit}
    {path : String} :
    path ∈ (ofVisits root fallbackExtensions visits).imagePaths ↔
      ∃ place ∈ filesOutsideCatalogs visits, path = relativePath place ∧
        isAssetFile (fileNameOf place) = true := by
  simp only [ofVisits, List.mem_map, List.mem_filter]
  constructor
  · intro found
    obtain ⟨place, ⟨file, image⟩, rfl⟩ := found
    exact ⟨place, file, rfl, image⟩
  · intro found
    obtain ⟨place, file, rfl, image⟩ := found
    exact ⟨place, ⟨file, image⟩, rfl⟩

/-- Files outside catalogs and image sets are all that matters of a walk. -/
theorem ofVisits_congr {root : String} {fallbackExtensions : List String}
    {first second : List Visit}
    (files : filesOutsideCatalogs first = filesOutsideCatalogs second)
    (groups : (first.filter (·.isGroup)).map Visit.directory =
      (second.filter (·.isGroup)).map Visit.directory) :
    ofVisits root fallbackExtensions first = ofVisits root fallbackExtensions second := by
  have paths := catalogGroups_eq root fallbackExtensions first
  rw [groups, ← catalogGroups_eq root fallbackExtensions] at paths
  simp only [ofVisits] at paths ⊢
  rw [files, paths]

section OfVisits

variable {disk : FileTree} {root : String} {fallbackExtensions : List String} {base : Location}
  (proper : disk.IsProper) (rootNonempty : root ≠ "")

include proper rootNonempty

theorem mem_openFiles (directory : disk.isDirectory base = true) {place : Location} :
    place ∈ filesOutsideCatalogs (disk.walk root base) ↔ IsOpenFile disk root base place := by
  rw [proper.mem_filesOutsideCatalogs rootNonempty]
  constructor
  · intro found
    exact ⟨found.1, found.2.2.1, found.2.2.2⟩
  · intro file
    exact ⟨file.listed, file.nonempty proper directory, file.considered, file.walkable⟩

theorem files_nonempty {place : Location}
    (member : place ∈ filesOutsideCatalogs (disk.walk root base)) : place ≠ [] :=
  ((proper.mem_filesOutsideCatalogs rootNonempty).mp member).2.1

theorem files_proper {place : Location}
    (member : place ∈ filesOutsideCatalogs (disk.walk root base)) :
    ∀ name ∈ place, IsProperName name := by
  obtain ⟨⟨content, listed⟩, _⟩ := (proper.mem_filesOutsideCatalogs rootNonempty).mp member
  exact fun name among => proper.named _ listed name (List.mem_append_right _ among)

theorem filePaths_nodup :
    ((filesOutsideCatalogs (disk.walk root base)).map relativePath).Nodup :=
  nodup_map_relativePath
    (Text.nodup_of_strict_order (fun _ _ => WalksBefore.asymm)
      (filesOutsideCatalogs_ascending proper.distinct))
    (fun _ => files_nonempty proper rootNonempty) (fun _ => files_proper proper rootNonempty)

theorem textPaths_nodup :
    ((ofVisits root fallbackExtensions (disk.walk root base)).textPaths.map Prod.fst).Nodup := by
  refine List.pairwise_map.mpr
    ((List.pairwise_map.mp (filePaths_nodup proper rootNonempty)).filterMap _ ?_)
  intro first second different text found other listed same
  rw [(textAt?_eq_some.mp found).1, (textAt?_eq_some.mp listed).1] at same
  exact different same

theorem imagePaths_nodup :
    (ofVisits root fallbackExtensions (disk.walk root base)).imagePaths.Nodup :=
  (filePaths_nodup proper rootNonempty).sublist (List.filter_sublist.map relativePath)

theorem mem_openGroups {place : Location} :
    place ∈ ((disk.walk root base).filter (·.isGroup)).map Visit.directory ↔
      IsOpenGroup disk root base place := by
  rw [proper.mem_groups rootNonempty]
  exact ⟨fun found => ⟨found.1, found.2.1, found.2.2⟩,
    fun group => ⟨group.listed, group.isGroup, group.walkable⟩⟩

theorem catalogGroups_nodup :
    (ofVisits root fallbackExtensions (disk.walk root base)).catalogGroups.Nodup := by
  rw [catalogGroups_eq]
  exact nodup_map_relativePath (Text.nodup_of_strict_order (fun _ _ => List.lt_asymm)
    (groups_ascending proper.distinct))
    (fun _ member => ((mem_openGroups proper rootNonempty).mp member).nonempty)
    (fun _ member => ((mem_openGroups proper rootNonempty).mp member).proper proper)

theorem bundleImages_eq :
    (ofVisits root fallbackExtensions (disk.walk root base)).bundleImages =
      ((ofVisits root fallbackExtensions (disk.walk root base)).imagePaths.filter fun path =>
        (pathParts path).dropLast.any isBundle).map fun path =>
          FileName.stem (FileName.last path) := by
  simp only [ofVisits, List.filter_map, List.map_map]
  have parts : ∀ place ∈ (filesOutsideCatalogs (disk.walk root base)).filter
      fun location => isAssetFile (fileNameOf location),
      pathParts (relativePath place) = place := by
    intro place member
    have file := List.mem_of_mem_filter member
    exact pathParts_relativePath (files_nonempty proper rootNonempty file)
      (files_proper proper rootNonempty file)
  have inBundles := List.filter_congr fun place member =>
    congrArg (fun parts : List String => parts.dropLast.any isBundle) (parts place member)
  rw [show (fun path => (pathParts path).dropLast.any isBundle) ∘ relativePath =
    fun place => (pathParts (relativePath place)).dropLast.any isBundle from rfl, inBundles]
  refine List.map_congr_left fun place member => ?_
  have file := List.mem_of_mem_filter (List.mem_of_mem_filter member)
  exact congrArg FileName.stem (last_relativePath (files_nonempty proper rootNonempty file)
    (files_proper proper rootNonempty file)).symm

/-- The walk through a disk tells every file and every image set once what it is. -/
theorem classifies_ofVisits (directory : disk.isDirectory base = true) :
    (ofVisits root fallbackExtensions (disk.walk root base)).Classifies disk root
      fallbackExtensions base where
  rootKept := rfl
  images := by
    intro path
    rw [mem_imagePaths]
    constructor
    · intro found
      obtain ⟨place, file, named, image⟩ := found
      exact ⟨place, named, (mem_openFiles proper rootNonempty directory).mp file, image⟩
    · intro found
      obtain ⟨place, named, file, image⟩ := found
      exact ⟨place, (mem_openFiles proper rootNonempty directory).mpr file, named, image⟩
  imagesOnce := imagePaths_nodup proper rootNonempty
  texts := by
    intro path category
    simp only [ofVisits, List.mem_filterMap, textAt?_eq_some]
    constructor
    · intro found
      obtain ⟨place, file, named, text⟩ := found
      exact ⟨place, named, (mem_openFiles proper rootNonempty directory).mp file, text⟩
    · intro found
      obtain ⟨place, named, file, text⟩ := found
      exact ⟨place, (mem_openFiles proper rootNonempty directory).mpr file, named, text⟩
  textsOnce := textPaths_nodup proper rootNonempty
  disjoint := by
    intro path image text
    obtain ⟨place, file, named, isImage⟩ := mem_imagePaths.mp image
    obtain ⟨⟨_, category⟩, listed, rfl⟩ := List.mem_map.mp text
    obtain ⟨other, otherFile, found⟩ := List.mem_filterMap.mp listed
    obtain ⟨otherNamed, notImage, _⟩ := textAt?_eq_some.mp found
    have same : place = other := relativePath_inj (files_nonempty proper rootNonempty file)
      (files_nonempty proper rootNonempty otherFile) (files_proper proper rootNonempty file)
      (files_proper proper rootNonempty otherFile) (named.symm.trans otherNamed)
    rw [same, notImage] at isImage
    cases isImage
  groups := by
    intro path
    simp only [catalogGroups_eq, List.mem_map, mem_openGroups proper rootNonempty]
    constructor
    · intro found
      obtain ⟨place, group, rfl⟩ := found
      exact ⟨place, rfl, group⟩
    · intro found
      obtain ⟨place, rfl, group⟩ := found
      exact ⟨place, group, rfl⟩
  groupsOnce := catalogGroups_nodup proper rootNonempty
  bundleImages := bundleImages_eq proper rootNonempty

end OfVisits

end SourceTree

/-- Every listing of a disk gives the same tree, and this one says of every file once what it
is. -/
theorem scan_classifies_once {workspace : Workspace} (proper : workspace.files.IsProper)
    {root : String} {base : Location}
    (located : workspace.files.locate workspace.directory root = .ok base)
    (directory : workspace.files.isDirectory base = true)
    (placed : (workspace.place? root).isSome = true) (fallbackExtensions : List String) :
    ∃ tree : SourceTree, tree.Classifies workspace.files root fallbackExtensions base ∧
      ∀ listing : FileTree, listing.entries.Perm workspace.files.entries →
        SourceTree.scan { workspace with files := listing } root fallbackExtensions = .ok tree := by
  have rootNonempty := (locate_eq_ok located).1
  refine ⟨_, SourceTree.classifies_ofVisits proper rootNonempty directory,
    fun listing reordered => ?_⟩
  have keeps := keeps_of_perm proper.distinct reordered
  refine SourceTree.scan_eq_ok.mpr
    ⟨base, keeps.locate located, keeps.isDirectory directory, placed, ?_⟩
  -- both walks ascend in the same strict order, so what they come to fixes them
  have files := filesOutsideCatalogs_perm root base proper.distinct reordered
  have groups := groups_perm root base proper.distinct reordered
  exact SourceTree.ofVisits_congr files.symm groups.symm

/-- A project with a screen, an image in a bundle and an image set in a catalog, listed in no
particular order. -/
def shopProject : Workspace :=
  ⟨⟨[(["Media.xcassets", "Star.imageset", "star.png"], .file [120]),
      (["Screens", "Home.swift"], .file [120]),
      (["Media.xcassets"], .directory),
      (["Kit.bundle", "logo.png"], .file [120]),
      (["Media.xcassets", "Star.imageset"], .directory),
      (["Screens"], .directory),
      (["Kit.bundle"], .directory)]⟩, []⟩

theorem scan_classifies_shop :
    shopProject.files.IsProper ∧ shopProject.files.isDirectory [] = true ∧
      ∃ tree : SourceTree, tree.Classifies shopProject.files "." [] [] ∧
        (∀ listing : FileTree, listing.entries.Perm shopProject.files.entries →
          SourceTree.scan { shopProject with files := listing } "." [] = .ok tree) ∧
        ("Screens/Home.swift", .swift) ∈ tree.textPaths ∧
        "Kit.bundle/logo.png" ∈ tree.imagePaths ∧
        "Media.xcassets/Star.imageset" ∈ tree.catalogGroups := by
  have proper : shopProject.files.IsProper := by decide
  have directory : shopProject.files.isDirectory [] = true := by decide
  have located : shopProject.files.locate shopProject.directory "." = .ok [] := rfl
  obtain ⟨tree, classifies, scanned⟩ :=
    scan_classifies_once proper located directory (by decide) []
  have screen : IsOpenFile shopProject.files "." [] ["Screens", "Home.swift"] :=
    ⟨⟨[120], by decide⟩, by decide, by decide⟩
  have logo : IsOpenFile shopProject.files "." [] ["Kit.bundle", "logo.png"] :=
    ⟨⟨[120], by decide⟩, by decide, by decide⟩
  have star : IsOpenGroup shopProject.files "." [] ["Media.xcassets", "Star.imageset"] :=
    ⟨by decide, by decide, by decide⟩
  refine ⟨proper, directory, tree, classifies, scanned, ?_, ?_, ?_⟩
  · exact (classifies.texts _ _).mpr ⟨_, rfl, screen, by decide +kernel, by decide +kernel⟩
  · exact (classifies.images _).mpr ⟨_, rfl, logo, by decide +kernel⟩
  · exact (classifies.groups _).mpr ⟨_, rfl, star⟩

/-- A path that stays in place, with a number of slashes at its end. -/
def dotSlashes : Nat → String
  | 0 => "."
  | count + 1 => dotSlashes count ++ "/"

theorem dotSlashes_byteSize (count : Nat) : (dotSlashes count).utf8ByteSize = count + 1 := by
  induction count with
  | zero => rfl
  | succ count ih =>
      rw [dotSlashes, String.utf8ByteSize_append, ih]
      rfl

theorem dotSlashes_parts (count : Nat) :
    pathParts (dotSlashes count) = "." :: List.replicate count "" := by
  induction count with
  | zero => rfl
  | succ count ih =>
      have empty : pathParts "" = [""] := rfl
      have parts := pathParts_append_slash (dotSlashes count) ""
      rw [String.append_empty, ih, empty] at parts
      rw [dotSlashes, parts, List.replicate_succ']
      rfl

theorem dotSlashes_toList (count : Nat) :
    (dotSlashes count).toList = '.' :: List.replicate count '/' := by
  induction count with
  | zero => rfl
  | succ count ih =>
      rw [dotSlashes, String.toList_append, ih, List.replicate_succ']
      rfl

theorem dotSlashes_ne_empty (count : Nat) : dotSlashes count ≠ "" := by
  cases count <;> simp [dotSlashes]

theorem dotSlashes_relative (count : Nat) : isAbsolutePath (dotSlashes count) = false := by
  rw [isAbsolutePath, dotSlashes_toList]
  rfl

theorem stepsOf_dotSlashes (count : Nat) :
    FileTree.stepsOf (dotSlashes (count + 1)) = [".", "."] := by
  have parts := dotSlashes_parts (count + 1)
  rw [List.replicate_succ', ← List.cons_append] at parts
  have none : (List.replicate count "").filter (· ≠ "") = [] :=
    List.filter_replicate_of_neg (by simp)
  rw [stepsOf_of_last parts, List.filter_cons_of_pos (by decide), none]
  rfl

/-- One screen in a directory. -/
def homeProject : Workspace :=
  ⟨⟨[(["b"], .directory), (["b", "Home.swift"], .file [120])]⟩, []⟩

theorem dotSlashes_located {count : Nat} (short : count ≤ 4093) :
    homeProject.files.locate homeProject.directory (dotSlashes (count + 1)) = .ok [] := by
  have plain : (dotSlashes (count + 1)).toList.contains '\x00' = false := by
    rw [dotSlashes_toList]
    simp
  have nonempty : (dotSlashes (count + 1)).isEmpty = false := by
    simpa using dotSlashes_ne_empty (count + 1)
  have fits : FileTree.fits (dotSlashes (count + 1)) = true := by
    have bound : count + 1 + 1 ≤ FileTree.maxPathBytes := Nat.add_le_add_right short 2
    rw [FileTree.fits, dotSlashes_byteSize]
    exact decide_eq_true bound
  rw [FileTree.locate, plain, nonempty, fits, stepsOf_dotSlashes, dotSlashes_relative]
  rfl

/-- From a root whose path is as long as a path can be, no directory can be opened. -/
theorem not_walkable_dotSlashes : isWalkable (dotSlashes (4093 + 1)) ["b"] = false := by
  have relative : isAbsolutePath "b" = false := by decide
  have slash : (dotSlashes (4093 + 1)).toList.getLast? = some '/' := by
    rw [dotSlashes_toList, List.replicate_succ', ← List.cons_append, List.getLast?_concat]
  have joined : joinPaths (dotSlashes (4093 + 1)) (relativePath ["b"]) =
      dotSlashes (4093 + 1) ++ "b" := by
    rw [show relativePath ["b"] = "b" from rfl, joinPaths_eq (dotSlashes_ne_empty _) relative,
      if_pos slash]
  rw [isWalkable, joined, FileTree.fits, String.utf8ByteSize_append, dotSlashes_byteSize]
  decide

/-- A source is missed if the path of its directory is too long. -/
theorem long_root_hides_source :
    homeProject.files.IsProper ∧
      homeProject.files.locate homeProject.directory (dotSlashes 4094) = .ok [] ∧
      homeProject.files.isDirectory [] = true ∧
      (["b", "Home.swift"], Entry.file [120]) ∈ homeProject.files.entries ∧
      isConsidered ["b", "Home.swift"] = true ∧ isAssetFile "Home.swift" = false ∧
      Category.ofFileName? [] "Home.swift" = some .swift ∧
      SourceTree.scan homeProject (dotSlashes 4094) [] = .ok ⟨dotSlashes 4094, [], [], [], []⟩ := by
  have located := dotSlashes_located (Nat.le_refl 4093)
  have placed : (homeProject.place? (dotSlashes (4093 + 1))).isSome = true := by
    rw [Workspace.place?, dotSlashes_relative]
    rfl
  have walk : homeProject.files.walk (dotSlashes (4093 + 1)) [] = [⟨[], []⟩] := by
    have levels : homeProject.files.depth + 1 = 1 + 1 + 1 := by decide
    have below : homeProject.files.walkFrom (dotSlashes (4093 + 1)) [] (1 + 1) ["b"] = [] := by
      rw [FileTree.walkFrom, not_walkable_dotSlashes]
      rfl
    have top : homeProject.files.walkFrom (dotSlashes (4093 + 1)) [] (1 + 1 + 1) [] =
        ⟨[], []⟩ :: ["b"].flatMap fun name =>
          homeProject.files.walkFrom (dotSlashes (4093 + 1)) [] (1 + 1) ([] ++ [name]) :=
      walkFrom_listed rfl rfl rfl (by decide) (by decide)
    rw [FileTree.walk, levels, top, List.flatMap_singleton, List.nil_append, below]
  refine ⟨by decide, located, by decide, by decide, by decide, by decide +kernel, by decide +kernel,
    SourceTree.scan_eq_ok.mpr ⟨[], located, rfl, placed, ?_⟩⟩
  rw [walk]
  rfl

end AssetAudit
