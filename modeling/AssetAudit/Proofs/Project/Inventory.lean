import AssetAudit.Proofs.Project.AssetReading

namespace AssetAudit

/-! No image of a project is lost and none is taken in twice. -/

open FileTree

namespace Inventory

theorem read_eq_ok {workspace : Workspace} {tree : SourceTree} {inventory : Inventory} :
    read workspace tree = .ok inventory ↔
      ∃ standalone,
        tree.imagePaths.mapM (AssetReading.standalone? workspace tree.root) = .ok standalone ∧
        tree.catalogGroups.mapM (fun group => do
          return (group, ← GroupReading.read workspace tree.root group)) = .ok inventory.groups ∧
        inventory.standalone = standalone.reduceOption := by
  obtain ⟨images, groups⟩ := inventory
  unfold read
  generalize tree.imagePaths.mapM (AssetReading.standalone? workspace tree.root) = standalone
  generalize (tree.catalogGroups.mapM fun group => do
    return (group, ← GroupReading.read workspace tree.root group)) = taken
  cases standalone with
  | error failure => simp [bind, Except.bind]
  | ok standalone =>
      cases taken with
      | error failure => simp [bind, Except.bind]
      | ok taken => simp [bind, Except.bind, pure, Except.pure, eq_comm, and_comm]

theorem mem_readings {inventory : Inventory} {reading : AssetReading} :
    reading ∈ inventory.readings ↔
      reading ∈ inventory.standalone ∨
        ∃ group taken, (group, taken) ∈ inventory.groups ∧ reading ∈ taken.readings := by
  simp [readings]

theorem mem_assets {inventory : Inventory} {asset : Asset} :
    asset ∈ inventory.assets ↔ ∃ reading ∈ inventory.readings, reading.asset = asset := by
  rw [assets, List.mem_mergeSort, List.mem_map]

theorem group_eq_ok {workspace : Workspace} {root group : String}
    {entry : String × GroupReading} :
    (do return (group, ← GroupReading.read workspace root group) : Except InventoryFailure _) =
      .ok entry ↔ ∃ taken, GroupReading.read workspace root group = .ok taken ∧
        entry = (group, taken) := by
  cases GroupReading.read workspace root group <;>
    simp [bind, Except.bind, pure, Except.pure, eq_comm]

section Read

variable {workspace : Workspace} {tree : SourceTree} {inventory : Inventory}
  (read : read workspace tree = .ok inventory)

include read

theorem mem_standalone {reading : AssetReading} :
    reading ∈ inventory.standalone ↔ ∃ path ∈ tree.imagePaths,
      AssetReading.standalone? workspace tree.root path = .ok (some reading) := by
  obtain ⟨standalone, made, _, same⟩ := read_eq_ok.mp read
  rw [same, List.reduceOption_mem_iff, mem_of_mapM made]

theorem mem_groups {group : String} {taken : GroupReading} :
    (group, taken) ∈ inventory.groups ↔
      group ∈ tree.catalogGroups ∧ GroupReading.read workspace tree.root group = .ok taken := by
  obtain ⟨_, _, made, _⟩ := read_eq_ok.mp read
  rw [mem_of_mapM made]
  constructor
  · intro found
    obtain ⟨other, member, taking⟩ := found
    obtain ⟨_, reading, same⟩ := group_eq_ok.mp taking
    obtain ⟨rfl, rfl⟩ := Prod.mk.inj same
    exact ⟨member, reading⟩
  · intro found
    exact ⟨group, found.1, group_eq_ok.mpr ⟨taken, found.2, rfl⟩⟩

theorem group_taken {group : String} (member : group ∈ tree.catalogGroups) :
    ∃ taken, (group, taken) ∈ inventory.groups := by
  obtain ⟨_, _, made, _⟩ := read_eq_ok.mp read
  obtain ⟨entry, among, taking⟩ := ok_of_mapM made member
  obtain ⟨taken, _, rfl⟩ := group_eq_ok.mp taking
  exact ⟨taken, among⟩

theorem standalone_read {path : String} (member : path ∈ tree.imagePaths)
    (image : isAssetFile (FileName.last path) = true) :
    ∃ reading ∈ inventory.standalone,
      AssetReading.standalone? workspace tree.root path = .ok (some reading) := by
  obtain ⟨standalone, made, _, same⟩ := read_eq_ok.mp read
  obtain ⟨reading?, among, taking⟩ := ok_of_mapM made member
  obtain ⟨reading, rfl⟩ := AssetReading.standalone?_isSome image taking
  refine ⟨reading, ?_, taking⟩
  rw [same]
  exact List.reduceOption_mem_iff.mpr among

theorem standalone_taken {path : String} (member : path ∈ tree.imagePaths)
    (image : isAssetFile (FileName.last path) = true) :
    ∃ reading ∈ inventory.standalone, AssetReading.IsStandalone reading.asset path := by
  obtain ⟨reading, among, taking⟩ := standalone_read read member image
  exact ⟨reading, among, AssetReading.standalone?_asset taking⟩

theorem standalone_distinct (distinct : tree.imagePaths.Nodup) :
    inventory.standalone.Pairwise fun reading other => reading.asset.path ≠ other.asset.path := by
  obtain ⟨standalone, made, _, same⟩ := read_eq_ok.mp read
  rw [same, List.reduceOption]
  refine (pairwise_of_mapM distinct made ?_).filterMap id fun _ _ related => related
  rintro path _ other _ different _ _ taking takingOther reading rfl second rfl equal
  rw [(AssetReading.standalone?_asset taking).located,
    (AssetReading.standalone?_asset takingOther).located] at equal
  exact different equal

/-- An image of an image set is the variant in one of its files that has a scale. -/
theorem variant_of_grouped {asset : Asset} (member : asset ∈ inventory.assets) {group : String}
    (grouped : asset.catalogGroup = some group) :
    ∃ scales names fileName scale,
      Manifest.read workspace (joinPaths tree.root group) = .ok scales ∧
      workspace.files.list workspace.directory (joinPaths tree.root group) = .ok names ∧
      fileName ∈ names ∧ isAssetFile fileName = true ∧
      KeyedList.get? scales fileName = some scale ∧
      AssetReading.IsVariant asset group fileName scale := by
  obtain ⟨reading, among, rfl⟩ := mem_assets.mp member
  rcases mem_readings.mp among with alone | ⟨other, taken, held, within⟩
  · obtain ⟨_, _, taking⟩ := (mem_standalone read).mp alone
    rw [(AssetReading.standalone?_asset taking).catalogGroup] at grouped
    cases grouped
  · obtain ⟨_, taking⟩ := (mem_groups read).mp held
    obtain ⟨scales, names, fileName, manifest, found, inside, variant⟩ :=
      (GroupReading.mem_readings taking).mp within
    obtain ⟨image, scale, given, shape⟩ := AssetReading.variant?_asset variant
    obtain rfl := Option.some.inj (shape.catalogGroup.symm.trans grouped)
    exact ⟨scales, names, fileName, scale, manifest, found, inside, image, given, shape⟩

end Read

/-- Where a variant is and which image set it belongs to. -/
structure IsVariantAt (workspace : Workspace) (root : String) (base : Location) (asset : Asset)
    (group : String) (place : Location) (fileName : String) : Prop where
  isGroup : IsOpenGroup workspace.files root base place
  grouped : group = relativePath place
  listed : fileName ∈ workspace.files.namesIn (base ++ place)
  proper : ∀ name ∈ place ++ [fileName], IsProperName name
  located : asset.path = relativePath (place ++ [fileName])
  shape : ∃ scale, AssetReading.IsVariant asset group fileName scale

section Scanned

variable {workspace : Workspace} {tree : SourceTree} {inventory : Inventory} {root : String}
  {fallbackExtensions : List String} {base : Location}
  (proper : workspace.files.IsProper)
  (located : workspace.files.locate workspace.directory tree.root = .ok base)
  (classifies : tree.Classifies workspace.files root fallbackExtensions base)

include proper located classifies

theorem variant_place {group : String} (listed : group ∈ tree.catalogGroups) {taken : GroupReading}
    (taking : GroupReading.read workspace tree.root group = .ok taken) {reading : AssetReading}
    (among : reading ∈ taken.readings) :
    ∃ place fileName, IsVariantAt workspace root base reading.asset group place fileName := by
  obtain ⟨place, rfl, isGroup⟩ := (classifies.groups group).mp listed
  obtain ⟨scales, names, fileName, _, found, inside, variant⟩ :=
    (GroupReading.mem_readings taking).mp among
  obtain rfl := list_below located isGroup.nonempty (isGroup.proper proper) found
  obtain ⟨entry, onDisk⟩ := mem_namesIn.mp inside
  obtain ⟨_, scale, _, shape⟩ := AssetReading.variant?_asset variant
  refine ⟨place, fileName, isGroup, rfl, inside, ?_, ?_, scale, shape⟩
  · rw [List.append_assoc] at onDisk
    exact fun name within => proper.named _ onDisk name (List.mem_append_right _ within)
  · rw [relativePath_concat isGroup.nonempty, shape.located]

theorem groups_distinct (read : Inventory.read workspace tree = .ok inventory) :
    (inventory.groups.flatMap fun (_, taken) => taken.readings).Pairwise fun reading other =>
      reading.asset.path ≠ other.asset.path := by
  refine List.pairwise_flatMap.mpr ⟨?_, ?_⟩
  · rintro ⟨group, taken⟩ member
    obtain ⟨listed, taking⟩ := (mem_groups read).mp member
    refine GroupReading.readings_distinct taking fun names found => ?_
    obtain ⟨place, rfl, isGroup⟩ := (classifies.groups group).mp listed
    obtain rfl := list_below located isGroup.nonempty (isGroup.proper proper) found
    exact namesIn_nodup proper.distinct _
  · obtain ⟨_, _, made, _⟩ := read_eq_ok.mp read
    refine pairwise_of_mapM classifies.groupsOnce made ?_
    intro group listed other otherListed different first second taking takingOther
    obtain ⟨taken, readTaken, rfl⟩ := group_eq_ok.mp taking
    obtain ⟨otherTaken, readOther, rfl⟩ := group_eq_ok.mp takingOther
    intro reading among otherReading otherAmong same
    -- the directory of a file is the place of its image set
    obtain ⟨place, fileName, here⟩ := variant_place proper located classifies listed readTaken among
    obtain ⟨otherPlace, otherName, there⟩ :=
      variant_place proper located classifies otherListed readOther otherAmong
    rw [here.located, there.located] at same
    have places := relativePath_inj (by simp) (by simp) here.proper there.proper same
    have above : place = otherPlace := (List.append_inj' places rfl).1
    exact different (by rw [here.grouped, there.grouped, above])

theorem standalone_aside (read : Inventory.read workspace tree = .ok inventory)
    (directory : workspace.files.isDirectory base = true) {reading other : AssetReading}
    (member : reading ∈ inventory.standalone)
    (among : other ∈ inventory.groups.flatMap fun (_, taken) => taken.readings) :
    reading.asset.path ≠ other.asset.path := by
  intro same
  obtain ⟨path, image, taking⟩ := (mem_standalone read).mp member
  obtain ⟨place, rfl, file, _⟩ := (classifies.images path).mp image
  obtain ⟨⟨group, taken⟩, held, within⟩ := List.mem_flatMap.mp among
  obtain ⟨listed, takingGroup⟩ := (mem_groups read).mp held
  obtain ⟨groupPlace, fileName, there⟩ :=
    variant_place proper located classifies listed takingGroup within
  rw [(AssetReading.standalone?_asset taking).located, there.located] at same
  have places := relativePath_inj (file.nonempty proper directory) (by simp) (file.proper proper)
    there.proper same
  -- an image on its own lies outside all catalogs, a variant inside one
  have outside := file.outside
  rw [places, List.dropLast_concat, there.isGroup.inCatalog] at outside
  cases outside

theorem paths_nodup (read : Inventory.read workspace tree = .ok inventory)
    (directory : workspace.files.isDirectory base = true) :
    (inventory.readings.map (·.asset.path)).Nodup := by
  refine List.pairwise_map.mpr (List.pairwise_append.mpr
    ⟨standalone_distinct read classifies.imagesOnce,
      groups_distinct proper located classifies read, ?_⟩)
  exact fun reading member other among =>
    standalone_aside proper located classifies read directory member among

/-- An entry of an image set is one of its variants when it has the extension of an image and the
manifest gives it a scale. -/
theorem variant_iff (read : Inventory.read workspace tree = .ok inventory) {group : String}
    (listed : group ∈ tree.catalogGroups) (fileName : String) (scale : Int) :
    (∃ asset ∈ inventory.assets, AssetReading.IsVariant asset group fileName scale) ↔
      fileName ∈ workspace.files.namesIn (base ++ pathParts group) ∧ isAssetFile fileName = true ∧
        ∃ records, Manifest.Lists workspace (joinPaths tree.root group) records ∧
          Manifest.LastGives records fileName scale := by
  obtain ⟨place, rfl, isGroup⟩ := (classifies.groups group).mp listed
  rw [pathParts_relativePath isGroup.nonempty (isGroup.proper proper)]
  constructor
  · intro found
    obtain ⟨asset, member, shape⟩ := found
    obtain ⟨scales, names, otherName, otherScale, manifest, listing, inside, image, given,
      otherShape⟩ := variant_of_grouped read member shape.catalogGroup
    obtain ⟨-, rfl, rfl⟩ := shape.unique otherShape
    obtain rfl := list_below located isGroup.nonempty (isGroup.proper proper) listing
    obtain ⟨records, lists, rfl⟩ := Manifest.read_eq_ok.mp manifest
    exact ⟨inside, image, records, lists, Manifest.get?_ofRecords.mp given⟩
  · intro found
    obtain ⟨inside, image, records, lists, gives⟩ := found
    have manifest := Manifest.read_eq_ok.mpr ⟨records, lists, rfl⟩
    have names := list_of_manifest located isGroup.nonempty (isGroup.proper proper) manifest
    obtain ⟨taken, member⟩ := group_taken read listed
    obtain ⟨_, taking⟩ := (mem_groups read).mp member
    obtain ⟨reading?, variant⟩ := GroupReading.variant?_ok taking manifest names inside
    obtain ⟨reading, rfl, shape⟩ :=
      AssetReading.variant?_isSome image (Manifest.get?_ofRecords.mpr gives) variant
    have within := (GroupReading.mem_readings taking).mpr
      ⟨_, _, fileName, manifest, names, inside, variant⟩
    exact ⟨reading.asset, mem_assets.mpr
      ⟨reading, mem_readings.mpr (Or.inr ⟨_, taken, member, within⟩), rfl⟩, shape⟩

end Scanned

theorem assets_ascending {inventory : Inventory}
    (distinct : (inventory.readings.map (·.asset.path)).Nodup) :
    (inventory.assets.map Asset.path).Pairwise (· < ·) := by
  have sorted : inventory.assets.Pairwise fun first second =>
      decide (first.path ≤ second.path) := by
    apply List.pairwise_mergeSort
    · intro _ _ _ first second
      exact decide_eq_true (String.le_trans (of_decide_eq_true first) (of_decide_eq_true second))
    · intro first second
      simpa using String.le_total first.path second.path
  have different : (inventory.assets.map Asset.path).Nodup := by
    refine (((List.mergeSort_perm _ _).map Asset.path).nodup_iff).mpr ?_
    rwa [List.map_map]
  have ascending : (inventory.assets.map Asset.path).Pairwise (· ≤ ·) :=
    List.pairwise_map.mpr (sorted.imp fun ordered => of_decide_eq_true ordered)
  exact ascending.imp₂ (fun _ _ below other => Std.lt_of_le_of_ne below other) different

theorem filter_path {assets : List Asset} (distinct : (assets.map Asset.path).Nodup)
    {asset : Asset} (member : asset ∈ assets) :
    assets.filter (·.path = asset.path) = [asset] := by
  obtain ⟨before, after, rfl⟩ := List.append_of_mem member
  rw [List.map_append, List.map_cons, List.nodup_append, List.nodup_cons] at distinct
  obtain ⟨_, ⟨fresh, _⟩, apart⟩ := distinct
  have ahead : before.filter (·.path = asset.path) = [] :=
    List.filter_eq_nil_iff.mpr fun other among same =>
      apart _ (List.mem_map_of_mem among) _ (List.mem_cons_self ..) (of_decide_eq_true same)
  have behind : after.filter (·.path = asset.path) = [] :=
    List.filter_eq_nil_iff.mpr fun other among same =>
      fresh (List.mem_map.mpr ⟨other, among, of_decide_eq_true same⟩)
  rw [List.filter_append, List.filter_cons, if_pos (decide_eq_true rfl), ahead, behind]
  rfl

end Inventory

/-- An inventory holds the images of a project and nothing else, in ascending order. -/
structure Inventory.IsExact (inventory : Inventory) (workspace : Workspace) (tree : SourceTree)
    (base : Location) : Prop where
  ascending : (inventory.assets.map Asset.path).Pairwise (· < ·)
  /-- Every image outside all catalogs is there once. -/
  standalone : ∀ path ∈ tree.imagePaths, ∃ asset,
    inventory.assets.filter (·.path = path) = [asset] ∧ AssetReading.IsStandalone asset path
  /-- The variants of an image set are the entries of its directory which have the extension of an
  image and a well-formed record in the manifest.  The last such record gives the scale. -/
  variants : ∀ group ∈ tree.catalogGroups, ∀ fileName scale,
    (∃ asset ∈ inventory.assets, AssetReading.IsVariant asset group fileName scale) ↔
      fileName ∈ workspace.files.namesIn (base ++ pathParts group) ∧ isAssetFile fileName = true ∧
        ∃ records, Manifest.Lists workspace (joinPaths tree.root group) records ∧
          Manifest.LastGives records fileName scale
  nothingElse : ∀ asset ∈ inventory.assets,
    (∃ path ∈ tree.imagePaths, AssetReading.IsStandalone asset path) ∨
      ∃ group ∈ tree.catalogGroups, ∃ fileName scale,
        AssetReading.IsVariant asset group fileName scale ∧ '/' ∉ fileName.toList ∧
          (scale = 1 ∨ scale = 2 ∨ scale = 3)

/-- Whatever a project holds, its inventory is exact if it can be taken at all. -/
theorem inventory_exact {workspace : Workspace} (proper : workspace.files.IsProper) {root : String}
    {fallbackExtensions : List String} {tree : SourceTree}
    (scanned : SourceTree.scan workspace root fallbackExtensions = .ok tree) {inventory : Inventory}
    (read : Inventory.read workspace tree = .ok inventory) :
    ∃ base, workspace.files.locate workspace.directory root = .ok base ∧
      inventory.IsExact workspace tree base := by
  obtain ⟨base, located, directory, _, same⟩ := SourceTree.scan_eq_ok.mp scanned
  have classifies : tree.Classifies workspace.files root fallbackExtensions base := by
    rw [same]
    exact SourceTree.classifies_ofVisits proper (locate_eq_ok located).1 directory
  refine ⟨base, located, ?_⟩
  rw [← classifies.rootKept] at located
  have ascending := Inventory.assets_ascending
    (Inventory.paths_nodup proper located classifies read directory)
  have distinct : (inventory.assets.map Asset.path).Nodup :=
    Text.nodup_of_strict_order (fun _ _ => String.lt_asymm) ascending
  refine ⟨ascending, ?_, ?_, ?_⟩
  · intro path member
    obtain ⟨place, rfl, file, image⟩ := (classifies.images path).mp member
    rw [← last_relativePath (file.nonempty proper directory) (file.proper proper)] at image
    obtain ⟨reading, among, standalone⟩ := Inventory.standalone_taken read member image
    have listed :=
      Inventory.mem_assets.mpr ⟨reading, Inventory.mem_readings.mpr (Or.inl among), rfl⟩
    refine ⟨reading.asset, ?_, standalone⟩
    rw [← standalone.located]
    exact Inventory.filter_path distinct listed
  · exact fun group listed => Inventory.variant_iff proper located classifies read listed
  · intro asset member
    obtain ⟨reading, among, rfl⟩ := Inventory.mem_assets.mp member
    rcases Inventory.mem_readings.mp among with standalone | ⟨group, taken, listed, within⟩
    · obtain ⟨path, image, taking⟩ := (Inventory.mem_standalone read).mp standalone
      exact Or.inl ⟨path, image, AssetReading.standalone?_asset taking⟩
    · obtain ⟨isGroup, taking⟩ := (Inventory.mem_groups read).mp listed
      obtain ⟨place, fileName, here⟩ :=
        Inventory.variant_place proper located classifies isGroup taking within
      obtain ⟨scale, shape⟩ := here.shape
      obtain ⟨_, _, records, _, gives⟩ := (Inventory.variant_iff proper located classifies read
        isGroup fileName scale).mp ⟨reading.asset, member, shape⟩
      obtain ⟨_, record, _, _, given, _⟩ := gives
      exact Or.inr ⟨group, isGroup, fileName, scale, shape,
        (here.proper fileName (by simp)).noSlash, given.scaled.bounds⟩

/-- Records of a file with a name that is no text, and with a scale that there is not, around the
one that counts. -/
def starManifest : String :=
  "\x7b\"images\": [\x7b\"filename\": \"star.png\"\x7d, \x7b\"filename\": 7\x7d, " ++
    "\x7b\"filename\": \"star.png\", \"scale\": \"2x\"\x7d, " ++
    "\x7b\"filename\": \"star.png\", \"scale\": \"9x\"\x7d]\x7d"

/-- An image and an image set, with a manifest that has more than one record of its file. -/
def starProject : Workspace :=
  ⟨⟨[(["Media.xcassets", "Star.imageset", "Contents.json"],
        .file starManifest.toUTF8.data.toList),
      (["Media.xcassets", "Star.imageset", "star.png"], .file [120]),
      (["logo.png"], .file [120]),
      (["Media.xcassets"], .directory),
      (["Media.xcassets", "Star.imageset"], .directory)]⟩, []⟩

def starTree : SourceTree :=
  ⟨".", [], ["logo.png"], ["Media.xcassets/Star.imageset"], []⟩

theorem starProject_walk : starProject.files.walk "." [] =
    [⟨[], ["logo.png"]⟩, ⟨["Media.xcassets"], []⟩,
      ⟨["Media.xcassets", "Star.imageset"], ["Contents.json", "star.png"]⟩] := by
  have levels : starProject.files.depth + 1 = 1 + 1 + 1 + 1 := by decide
  have set : starProject.files.walkFrom "." [] (1 + 1) ["Media.xcassets", "Star.imageset"] =
      [⟨["Media.xcassets", "Star.imageset"], ["Contents.json", "star.png"]⟩] :=
    FileTree.walkFrom_listed (by decide) rfl rfl (by decide) (by decide)
  have catalog : starProject.files.walkFrom "." [] (1 + 1 + 1) ["Media.xcassets"] =
      ⟨["Media.xcassets"], []⟩ :: ["Star.imageset"].flatMap fun name =>
        starProject.files.walkFrom "." [] (1 + 1) (["Media.xcassets"] ++ [name]) :=
    FileTree.walkFrom_listed (by decide) rfl rfl (by decide) (by decide)
  have top : starProject.files.walkFrom "." [] (1 + 1 + 1 + 1) [] =
      ⟨[], ["logo.png"]⟩ :: ["Media.xcassets"].flatMap fun name =>
        starProject.files.walkFrom "." [] (1 + 1 + 1) ([] ++ [name]) :=
    FileTree.walkFrom_listed (by decide) rfl rfl (by decide) (by decide)
  rw [FileTree.walk, levels, top, List.flatMap_singleton, List.nil_append, catalog,
    List.flatMap_singleton, List.singleton_append, set]

theorem starProject_scan : SourceTree.scan starProject "." [] = .ok starTree := by
  refine SourceTree.scan_eq_ok.mpr ⟨[], rfl, by decide, by decide, ?_⟩
  rw [starProject_walk]
  decide +kernel

theorem starManifest_read :
    Manifest.read starProject (joinPaths "." "Media.xcassets/Star.imageset") =
      .ok [("star.png", 2)] :=
  toOption_eq_some.mp (by decide +kernel)

theorem starGroup_list : starProject.files.list starProject.directory
    (joinPaths "." "Media.xcassets/Star.imageset") = .ok ["Contents.json", "star.png"] :=
  congrArg Except.ok (List.mergeSort_of_pairwise (by decide))

theorem starGroup_read : ∃ variants,
    GroupReading.read starProject "." "Media.xcassets/Star.imageset" =
      .ok (.variants variants) := by
  unfold GroupReading.read
  simp only [starManifest_read, starGroup_list]
  exact ⟨_, rfl⟩

theorem starProject_inventory :
    ∃ inventory, Inventory.read starProject starTree = .ok inventory := by
  obtain ⟨variants, taken⟩ := starGroup_read
  refine ⟨⟨[_], [("Media.xcassets/Star.imageset", .variants variants)]⟩,
    Inventory.read_eq_ok.mpr ⟨[some _], rfl, ?_, rfl⟩⟩
  exact mapM_cons_eq_ok.mpr ⟨_, [], Inventory.group_eq_ok.mpr ⟨_, taken, rfl⟩, rfl, rfl⟩

/-- The image is there once, and the one sound statement of a scale gives that of the variant. -/
theorem star_inventory_exact :
    starProject.files.IsProper ∧ SourceTree.scan starProject "." [] = .ok starTree ∧
      ∃ inventory, Inventory.read starProject starTree = .ok inventory ∧
        (∃ asset, inventory.assets.filter (·.path = "logo.png") = [asset] ∧
          AssetReading.IsStandalone asset "logo.png") ∧
        ∃ asset ∈ inventory.assets,
          AssetReading.IsVariant asset "Media.xcassets/Star.imageset" "star.png" 2 := by
  have proper : starProject.files.IsProper := by decide
  obtain ⟨inventory, read⟩ := starProject_inventory
  obtain ⟨base, located, isExact⟩ := inventory_exact proper starProject_scan read
  obtain rfl : [] = base := Except.ok.inj located
  obtain ⟨records, lists, same⟩ := Manifest.read_eq_ok.mp starManifest_read
  have gives : Manifest.LastGives records "star.png" 2 :=
    Manifest.get?_ofRecords.mp (by rw [← same]; rfl)
  have inside : "star.png" ∈
      starProject.files.namesIn ([] ++ pathParts "Media.xcassets/Star.imageset") :=
    mem_namesIn.mpr ⟨.file [120], by decide⟩
  refine ⟨proper, starProject_scan, inventory, read, isExact.standalone "logo.png" (by decide), ?_⟩
  exact (isExact.variants _ (by decide) "star.png" 2).mpr
    ⟨inside, by decide +kernel, records, lists, gives⟩

end AssetAudit
