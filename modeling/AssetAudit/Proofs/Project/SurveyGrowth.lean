import AssetAudit.Proofs.Project.Addition

namespace AssetAudit

/-! The survey of a project with a new text file has the images of the old survey, its sources, and
the new source if it can be read. -/

open FileTree

namespace SourceTree

variable {workspace : Workspace} {root : String} {fallbackExtensions : List String}
  {base : Location} {tree : SourceTree}

theorem file_listed {place : Location}
    (member : place ∈ filesOutsideCatalogs (workspace.files.walk root base)) :
    ∃ entry, place ≠ [] ∧ (base ++ place, entry) ∈ workspace.files.entries := by
  obtain ⟨directory, name, content, rfl, listed, _⟩ := mem_filesOutsideCatalogs.mp member
  rw [List.append_assoc] at listed
  exact ⟨.file content, by simp, listed⟩

theorem imagePath_listed {path : String}
    (member :
      path ∈ (ofVisits root fallbackExtensions (workspace.files.walk root base)).imagePaths) :
    ∃ names entry, path = relativePath names ∧ names ≠ [] ∧
      (base ++ names, entry) ∈ workspace.files.entries := by
  obtain ⟨names, image, rfl⟩ := List.mem_map.mp member
  obtain ⟨entry, nonempty, listed⟩ := file_listed (List.mem_of_mem_filter image)
  exact ⟨names, entry, rfl, nonempty, listed⟩

theorem textPath_listed {path : String} {category : Category}
    (member : (path, category) ∈
      (ofVisits root fallbackExtensions (workspace.files.walk root base)).textPaths) :
    ∃ names entry, path = relativePath names ∧ names ≠ [] ∧
      (base ++ names, entry) ∈ workspace.files.entries := by
  obtain ⟨names, file, text⟩ := List.mem_filterMap.mp member
  obtain ⟨entry, nonempty, listed⟩ := file_listed file
  unfold textAt? at text
  split at text
  · cases text
  · obtain ⟨kind, _, same⟩ := Option.map_eq_some_iff.mp text
    exact ⟨names, entry, (Prod.mk.inj same).1.symm, nonempty, listed⟩

theorem catalogGroup_listed {group : String}
    (member : group ∈
      (ofVisits root fallbackExtensions (workspace.files.walk root base)).catalogGroups) :
    ∃ names, group = relativePath names ∧ names ≠ [] ∧ isCatalogGroup names = true ∧
      (base ++ names, Entry.directory) ∈ workspace.files.entries := by
  obtain ⟨visit, among, rfl⟩ := List.mem_map.mp member
  obtain ⟨entered, catalog, imageSet⟩ := mem_groups.mp (List.mem_map_of_mem among)
  have nonempty : visit.directory ≠ [] := by
    intro top
    rw [top] at catalog
    cases catalog
  refine ⟨visit.directory, rfl, nonempty, ?_, entered.listed nonempty⟩
  simp only [isCatalogGroup, catalog, imageSet, Bool.and_true, List.all_eq_true,
    Bool.not_eq_true']
  exact entered.visible

end SourceTree

namespace TextAddition

variable {workspace : Workspace} {root : String} {fallbackExtensions : List String}
  (addition : TextAddition workspace root fallbackExtensions)

theorem relocated :
    addition.applied.files.locate addition.applied.directory root = .ok addition.base :=
  addition.keeps.locate addition.located

theorem alike_of_entry (proper : workspace.files.IsProper) {names : Location} (nonempty : names ≠ [])
    {entry : Entry} (member : (addition.base ++ names, entry) ∈ workspace.files.entries) :
    Alike workspace.files addition.applied.files addition.base addition.base names :=
  addition.keeps.alike proper nonempty member

/-- The new file is in no image set. -/
theorem aside_of_catalogGroup {names : Location} (isGroup : isCatalogGroup names = true)
    (name : String) : ¬ names ++ [name] <+: addition.place := by
  intro onWay
  have shorter : names <+: addition.place.dropLast := by
    obtain ⟨rest, equal⟩ := onWay
    rw [← equal, List.append_assoc, List.dropLast_append_of_ne_nil (by simp)]
    exact List.prefix_append _ _
  rw [addition.not_isCatalogGroup shorter] at isGroup
  cases isGroup

theorem alike_in_group (proper : workspace.files.IsProper) {names : Location} {name : String}
    (isGroup : isCatalogGroup names = true) (properName : IsProperName name) (nonempty : names ≠ [])
    (listed : (addition.base ++ names, Entry.directory) ∈ workspace.files.entries) :
    Alike workspace.files addition.applied.files addition.base addition.base (names ++ [name]) := by
  refine (addition.alike_of_entry proper nonempty listed).concat properName ?_
  apply entry?_write_aside addition.fresh
  intro onWay
  exact addition.aside_of_catalogGroup isGroup name
    ((List.prefix_append_right_inj addition.base).mp onWay)

theorem readGroup (proper : workspace.files.IsProper) {names : Location}
    (isGroup : isCatalogGroup names = true) (nonempty : names ≠ [])
    (listed : (addition.base ++ names, Entry.directory) ∈ workspace.files.entries) :
    GroupReading.read addition.applied root (relativePath names) =
      GroupReading.read workspace root (relativePath names) := by
  have children : addition.files.children (addition.base ++ names) =
      workspace.files.children (addition.base ++ names) := by
    apply children_write_aside addition.fresh
    intro name onWay
    rw [List.append_assoc] at onWay
    exact addition.aside_of_catalogGroup isGroup name
      ((List.prefix_append_right_inj addition.base).mp onWay)
  have inside : addition.applied.files.namesIn (addition.base ++ names) =
      workspace.files.namesIn (addition.base ++ names) := by
    show addition.files.namesIn (addition.base ++ names) = _
    rw [FileTree.namesIn, FileTree.namesIn, children]
  refine GroupReading.read_alike addition.located addition.relocated
    (addition.alike_of_entry proper nonempty listed)
    (addition.alike_in_group proper isGroup (by decide) nonempty listed) inside ?_
  intro fileName member
  obtain ⟨entry, file⟩ := mem_namesIn.mp member
  rw [List.append_assoc] at file
  exact addition.alike_of_entry proper (by simp) file

theorem readInventory (proper : workspace.files.IsProper) {tree wider : SourceTree}
    (scanned : SourceTree.scan workspace root fallbackExtensions = .ok tree)
    (grows : tree.GrowsBy wider (relativePath addition.place, addition.category)) :
    Inventory.read addition.applied wider = Inventory.read workspace tree := by
  obtain ⟨base, located, _, _, rfl⟩ := SourceTree.scan_eq_ok.mp scanned
  obtain rfl : addition.base = base := Except.ok.inj (addition.located.symm.trans located)
  refine Inventory.read_congr grows.root grows.images grows.groups ?_ ?_
  · intro path member
    obtain ⟨names, entry, rfl, nonempty, listed⟩ := SourceTree.imagePath_listed member
    exact AssetReading.standalone?_alike located addition.relocated
      (addition.alike_of_entry proper nonempty listed)
  · intro group member
    obtain ⟨names, rfl, nonempty, isGroup, listed⟩ := SourceTree.catalogGroup_listed member
    exact addition.readGroup proper isGroup nonempty listed

theorem readSource_kept (proper : workspace.files.IsProper) {tree : SourceTree}
    (scanned : SourceTree.scan workspace root fallbackExtensions = .ok tree) {path : String}
    {category : Category} (member : (path, category) ∈ tree.textPaths) :
    readSource addition.applied root path category = readSource workspace root path category := by
  obtain ⟨base, located, _, _, rfl⟩ := SourceTree.scan_eq_ok.mp scanned
  obtain rfl : addition.base = base := Except.ok.inj (addition.located.symm.trans located)
  obtain ⟨names, entry, rfl, nonempty, listed⟩ := SourceTree.textPath_listed member
  exact readSource_alike located addition.relocated
    (addition.alike_of_entry proper nonempty listed) category

/-- If the new file can be read, it is read as it was written. -/
theorem readSource_new (nonempty : addition.place ≠ []) {source : SourceFile}
    (read : readSource addition.applied root (relativePath addition.place) addition.category =
      .ok source) : source = addition.source := by
  have content : ∀ bytes, addition.files.content workspace.directory
      (joinPaths root (relativePath addition.place)) = .ok bytes → bytes = addition.content := by
    intro bytes found
    unfold FileTree.content at found
    rw [locate_joinPaths (addition.keeps.locate addition.located) nonempty addition.named] at found
    split at found
    · cases found
    · split at found
      · cases found
      · cases reached : addition.place.foldlM addition.files.step addition.base with
        | error failure =>
            rw [reached] at found
            cases found
        | ok there =>
            obtain rfl := foldlM_step_names addition.named reached
            have written : FileTree.entry? addition.files (addition.base ++ addition.place) =
                some (.file addition.content) := entry?_write_self addition.fresh addition.content
            rw [reached] at found
            simp only [bind, Except.bind, written] at found
            exact (Except.ok.inj found).symm
  unfold readSource Workspace.readText at read
  cases found : addition.files.content workspace.directory
      (joinPaths root (relativePath addition.place)) with
  | error failure =>
      simp only [applied, found] at read
      cases read
  | ok bytes =>
      obtain rfl := content bytes found
      simp only [applied, found, addition.decoded] at read
      exact (Except.ok.inj read).symm

end TextAddition

namespace Survey

variable {workspace : Workspace} {root : String} {fallbackExtensions : List String}
  {survey : Survey}

theorem read_eq_ok :
    read workspace root fallbackExtensions = .ok survey ↔
      SourceTree.scan workspace root fallbackExtensions = .ok survey.tree ∧
        Inventory.read workspace survey.tree = .ok survey.inventory ∧
        survey.readings = readTexts workspace survey.tree := by
  obtain ⟨tree, inventory, readings⟩ := survey
  unfold read
  cases scanned : SourceTree.scan workspace root fallbackExtensions with
  | error failure => simp [Except.mapError, bind, Except.bind]
  | ok found =>
      cases taken : Inventory.read workspace found with
      | error failure =>
          simp only [Except.mapError, bind, Except.bind, taken]
          constructor
          · intro surveyed
            cases surveyed
          · intro surveyed
            obtain rfl := Except.ok.inj surveyed.1
            rw [taken] at surveyed
            cases surveyed.2.1
      | ok images =>
          simp only [Except.mapError, bind, Except.bind, taken, pure, Except.pure]
          constructor
          · intro surveyed
            obtain ⟨rfl, rfl, rfl⟩ := Survey.mk.inj (Except.ok.inj surveyed)
            exact ⟨rfl, taken, rfl⟩
          · intro surveyed
            obtain ⟨same, inventoried, rfl⟩ := surveyed
            obtain rfl := Except.ok.inj same
            rw [taken] at inventoried
            obtain rfl := Except.ok.inj inventoried
            rfl

theorem mem_sources (readings : survey.readings = readTexts workspace survey.tree)
    {source : SourceFile} :
    source ∈ survey.sources ↔ ∃ path category, (path, category) ∈ survey.tree.textPaths ∧
      readSource workspace survey.tree.root path category = .ok source := by
  have toOption : ∀ reading : Except TextFailure SourceFile,
      reading.toOption = some source ↔ reading = .ok source := by
    intro reading
    cases reading <;> simp [Except.toOption]
  simp only [sources, readings, readTexts, sortedTexts, List.filterMap_map, List.mem_filterMap,
    List.mem_mergeSort, Function.comp_apply, toOption, Prod.exists]

end Survey

/-- What the survey of a project becomes when a text file is added. -/
theorem TextAddition.survey {workspace : Workspace} {root : String}
    {fallbackExtensions : List String}
    (addition : TextAddition workspace root fallbackExtensions)
    (proper : workspace.files.IsProper) {survey : Survey}
    (surveyed : Survey.read workspace root fallbackExtensions = .ok survey) :
    ∃ wider, Survey.read addition.applied root fallbackExtensions = .ok wider ∧
      wider.assets = survey.assets ∧ wider.tree.bundleImages = survey.tree.bundleImages ∧
      (∀ source ∈ survey.sources, source ∈ wider.sources) ∧
      ∀ source ∈ wider.sources, source ∈ survey.sources ∨ source = addition.source := by
  obtain ⟨scanned, inventoried, readings⟩ := Survey.read_eq_ok.mp surveyed
  obtain ⟨tree, rescanned, grows⟩ := addition.scan proper scanned
  have nonempty : addition.place ≠ [] := by
    obtain ⟨base, located, directory, _⟩ := SourceTree.scan_eq_ok.mp scanned
    obtain rfl : addition.base = base := Except.ok.inj (addition.located.symm.trans located)
    exact addition.nonempty directory
  have reinventoried : Inventory.read addition.applied tree = .ok survey.inventory :=
    (addition.readInventory proper scanned grows).trans inventoried
  have rootSame : survey.tree.root = root := by
    obtain ⟨_, _, _, _, same⟩ := SourceTree.scan_eq_ok.mp scanned
    rw [same]
    rfl
  let wider : Survey := ⟨tree, survey.inventory, Survey.readTexts addition.applied tree⟩
  have widerReadings : wider.readings = Survey.readTexts addition.applied wider.tree := rfl
  refine ⟨wider, Survey.read_eq_ok.mpr ⟨rescanned, reinventoried, rfl⟩, rfl, grows.bundleImages,
    ?_, ?_⟩
  · intro source member
    obtain ⟨path, category, listed, read⟩ := (Survey.mem_sources readings).mp member
    refine (Survey.mem_sources widerReadings).mpr ⟨path, category, grows.keeps _ listed, ?_⟩
    rw [rootSame] at read
    rw [grows.root, rootSame, addition.readSource_kept proper scanned listed, read]
  · intro source member
    obtain ⟨path, category, listed, read⟩ := (Survey.mem_sources widerReadings).mp member
    rw [grows.root, rootSame] at read
    rcases grows.onlyAdds _ listed with old | new
    · rw [addition.readSource_kept proper scanned old] at read
      refine Or.inl ((Survey.mem_sources readings).mpr ⟨path, category, old, ?_⟩)
      rw [rootSame, read]
    · obtain ⟨rfl, rfl⟩ := Prod.mk.inj new
      exact Or.inr (addition.readSource_new nonempty read)

end AssetAudit
