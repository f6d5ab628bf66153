import AssetAudit.Proofs.Project.Inventory

namespace AssetAudit

/-! Every image of an inventory comes from one reading of one file, and so has what all such
readings have. -/

namespace AssetReading

/-- The reading of some file of a project. -/
def IsOfFile (workspace : Workspace) (root : String) (reading : AssetReading) : Prop :=
  ∃ path format name kind scale catalogGroup,
    ofFile workspace root path format name kind scale catalogGroup = .ok reading

variable {workspace : Workspace} {root path group fileName : String} {reading : AssetReading}

theorem isOfFile_standalone (read : standalone? workspace root path = .ok (some reading)) :
    reading.IsOfFile workspace root := by
  unfold standalone? at read
  simp only at read
  split at read
  · cases read
  · obtain ⟨_, made, same⟩ := map_some_eq_ok.mp read
    obtain rfl := Option.some.inj same
    exact ⟨_, _, _, _, _, _, made⟩

theorem isOfFile_variant {scales : Manifest}
    (read : variant? workspace root group scales fileName = .ok (some reading)) :
    reading.IsOfFile workspace root := by
  unfold variant? at read
  split at read
  · obtain ⟨_, made, same⟩ := map_some_eq_ok.mp read
    obtain rfl := Option.some.inj same
    exact ⟨_, _, _, _, _, _, made⟩
  · cases read

theorem IsOfFile.byteSize_nonneg (ofFile : reading.IsOfFile workspace root) :
    0 ≤ reading.asset.byteSize := by
  obtain ⟨path, format, name, kind, scale, catalogGroup, read⟩ := ofFile
  unfold AssetReading.ofFile at read
  simp only at read
  split at read
  · obtain rfl := Except.ok.inj read
    exact Int.natCast_nonneg _
  · split at read
    · cases read
    · obtain rfl := Except.ok.inj read
      exact Int.natCast_nonneg _

end AssetReading

theorem Inventory.assets_ofFile {workspace : Workspace} {tree : SourceTree} {inventory : Inventory}
    (read : read workspace tree = .ok inventory) {asset : Asset}
    (member : asset ∈ inventory.assets) :
    ∃ reading : AssetReading, reading.asset = asset ∧ reading.IsOfFile workspace tree.root := by
  obtain ⟨reading, among, same⟩ := mem_assets.mp member
  refine ⟨reading, same, ?_⟩
  rcases mem_readings.mp among with alone | ⟨group, taken, held, within⟩
  · obtain ⟨path, -, taking⟩ := (mem_standalone read).mp alone
    exact AssetReading.isOfFile_standalone taking
  · obtain ⟨-, taking⟩ := (mem_groups read).mp held
    obtain ⟨_, _, _, _, _, _, variant⟩ := (GroupReading.mem_readings taking).mp within
    exact AssetReading.isOfFile_variant variant

end AssetAudit
