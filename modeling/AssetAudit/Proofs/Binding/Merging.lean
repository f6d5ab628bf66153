import AssetAudit.Binding.Collect
import AssetAudit.Proofs.Binding.Fold
import AssetAudit.Proofs.FirstAppearance

namespace AssetAudit

/-! A table of bindings holds each name, and each value of a name, in the place of its first
appearance.  So it does not matter whether bindings are merged before they reach the table. -/

/-- The values that bindings give a name, one after the other. -/
def valuesGiven (bindings : List Binding) (identifier : String) : List String :=
  (bindings.filter (·.identifier = identifier)).flatMap (·.values)

theorem valuesGiven_append (bindings others : List Binding) (identifier : String) :
    valuesGiven (bindings ++ others) identifier =
      valuesGiven bindings identifier ++ valuesGiven others identifier := by
  rw [valuesGiven, List.filter_append, List.flatMap_append]
  rfl

theorem valuesGiven_singleton (binding : Binding) (identifier : String) :
    valuesGiven [binding] identifier =
      if binding.identifier = identifier then binding.values else [] := by
  by_cases same : binding.identifier = identifier
  · simp [valuesGiven, same]
  · simp [valuesGiven, same]

theorem valuesGiven_unknown {bindings : List Binding} {identifier : String}
    (unknown : identifier ∉ bindings.map (·.identifier)) :
    valuesGiven bindings identifier = [] := by
  rw [valuesGiven, List.flatMap_eq_nil_iff]
  intro binding member
  obtain ⟨among, same⟩ := List.mem_filter.mp member
  exact absurd (List.mem_map.mpr ⟨binding, among, of_decide_eq_true same⟩) unknown

/-- Each name with its values, all in the order in which they first appear. -/
def inOrderOfAppearance (bindings : List Binding) : List Binding :=
  (bindings.map (·.identifier)).eraseDups.map fun identifier =>
    ⟨identifier, (valuesGiven bindings identifier).eraseDups⟩

theorem addValues_eraseDups (old new : List String) :
    addValues old.eraseDups new = (old ++ new).eraseDups := by
  induction new generalizing old with
  | nil => simp [addValues]
  | cons value new ih =>
      have first : addValue old.eraseDups value = (old ++ [value]).eraseDups := by
        rw [eraseDups_concat, addValue]
        simp only [List.mem_eraseDups]
      have rest := ih (old ++ [value])
      rw [List.append_assoc, List.singleton_append] at rest
      rw [← rest, ← first]
      rfl

namespace BindingTable

variable {names : List String} {values : String → List String} {binding : Binding}

theorem addTo_map_known (distinct : names.Nodup) (known : binding.identifier ∈ names) :
    addTo (names.map fun name => ⟨name, values name⟩) binding =
      names.map fun name => ⟨name, if name = binding.identifier then
        addValues (values name) binding.values else values name⟩ := by
  induction names with
  | nil => cases known
  | cons name names ih =>
      obtain ⟨absent, distinct⟩ := List.nodup_cons.mp distinct
      rw [List.map_cons, List.map_cons, addTo]
      by_cases here : name = binding.identifier
      · rw [if_pos here, if_pos here]
        congr 1
        refine List.map_congr_left fun other member => ?_
        rw [if_neg]
        rintro rfl
        exact absent (here ▸ member)
      · rw [if_neg here, if_neg here, ih distinct (List.mem_of_ne_of_mem (Ne.symm here) known)]

theorem addTo_map_fresh (fresh : binding.identifier ∉ names) :
    addTo (names.map fun name => ⟨name, values name⟩) binding =
      names.map (fun name => ⟨name, values name⟩) ++
        [⟨binding.identifier, addValues [] binding.values⟩] := by
  induction names with
  | nil => rfl
  | cons name names ih =>
      have different := List.ne_of_not_mem_cons fresh
      have later := List.not_mem_of_not_mem_cons fresh
      rw [List.map_cons, addTo, if_neg (Ne.symm different), ih later, List.cons_append]

theorem entries_concat (bindings : List Binding) (binding : Binding) :
    (ofList (bindings ++ [binding])).entries = addTo (ofList bindings).entries binding := by
  rw [ofList, List.foldl_append]
  rfl

theorem entries_ofList (bindings : List Binding) :
    (ofList bindings).entries = inOrderOfAppearance bindings := by
  induction bindings using List.reverseRecOn with
  | nil => rfl
  | append_singleton bindings binding ih =>
      rw [entries_concat, ih, inOrderOfAppearance, inOrderOfAppearance, List.map_append,
        List.map_singleton, eraseDups_concat]
      split
      · rename_i known
        rw [addTo_map_known (nodup_eraseDups _) (List.mem_eraseDups.mpr known)]
        refine List.map_congr_left fun name _ => ?_
        rw [valuesGiven_append, valuesGiven_singleton]
        by_cases same : name = binding.identifier
        · rw [if_pos same, if_pos same.symm, addValues_eraseDups]
        · rw [if_neg same, if_neg (Ne.symm same), List.append_nil]
      · rename_i fresh
        rw [addTo_map_fresh fun member => fresh (List.mem_eraseDups.mp member), List.map_append]
        congr 1
        · refine List.map_congr_left fun name member => ?_
          have other : binding.identifier ≠ name := by
            rintro rfl
            exact fresh (List.mem_eraseDups.mp member)
          rw [valuesGiven_append, valuesGiven_singleton, if_neg other, List.append_nil]
        · have new := addValues_eraseDups [] binding.values
          rw [List.map_singleton, valuesGiven_append, valuesGiven_unknown fresh,
            valuesGiven_singleton, if_pos rfl]
          simpa using new

end BindingTable

theorem valuesGiven_map {names : List String} (distinct : names.Nodup)
    (values : String → List String) (identifier : String) :
    valuesGiven (names.map fun name => ⟨name, values name⟩) identifier =
      if identifier ∈ names then values identifier else [] := by
  induction names with
  | nil => rfl
  | cons name names ih =>
      obtain ⟨absent, distinct⟩ := List.nodup_cons.mp distinct
      rw [List.map_cons, ← List.singleton_append, valuesGiven_append, valuesGiven_singleton,
        ih distinct]
      by_cases here : name = identifier
      · subst here
        simp [absent]
      · simp [here, Ne.symm here]

theorem names_inOrderOfAppearance (bindings : List Binding) :
    (inOrderOfAppearance bindings).map (·.identifier) =
      (bindings.map (·.identifier)).eraseDups := by
  rw [inOrderOfAppearance, List.map_map]
  exact List.map_id _

theorem valuesGiven_inOrderOfAppearance (bindings : List Binding) (identifier : String) :
    valuesGiven (inOrderOfAppearance bindings) identifier =
      (valuesGiven bindings identifier).eraseDups := by
  rw [inOrderOfAppearance, valuesGiven_map (nodup_eraseDups _)]
  split
  · rfl
  · rename_i unknown
    rw [valuesGiven_unknown fun known => unknown (List.mem_eraseDups.mpr known)]
    rfl

theorem inOrderOfAppearance_append (bindings others : List Binding) :
    inOrderOfAppearance (bindings ++ inOrderOfAppearance others) =
      inOrderOfAppearance (bindings ++ others) := by
  have sameNames : ((bindings ++ inOrderOfAppearance others).map (·.identifier)).eraseDups =
      ((bindings ++ others).map (·.identifier)).eraseDups := by
    rw [List.map_append, names_inOrderOfAppearance, eraseDups_append_eraseDups, List.map_append]
  have sameValues (name : String) :
      (valuesGiven (bindings ++ inOrderOfAppearance others) name).eraseDups =
        (valuesGiven (bindings ++ others) name).eraseDups := by
    rw [valuesGiven_append, valuesGiven_inOrderOfAppearance, eraseDups_append_eraseDups,
      valuesGiven_append]
  rw [inOrderOfAppearance, sameNames]
  exact List.map_congr_left fun name _ => by rw [sameValues]

namespace BindingTable

/-- Merging bindings before they arrive changes nothing. -/
theorem ofList_append_entries (bindings others : List Binding) :
    ofList (bindings ++ (ofList others).entries) = ofList (bindings ++ others) := by
  have same : (ofList (bindings ++ (ofList others).entries)).entries =
      (ofList (bindings ++ others)).entries := by
    rw [entries_ofList, entries_ofList, entries_ofList, inOrderOfAppearance_append]
  exact congrArg BindingTable.mk same

theorem ofList_append (bindings others : List Binding) :
    ofList (bindings ++ others) = others.foldl add (ofList bindings) :=
  List.foldl_append

theorem ofList_entries_append (bindings others : List Binding) :
    ofList ((ofList bindings).entries ++ others) = ofList (bindings ++ others) := by
  have merged : ofList (ofList bindings).entries = ofList bindings :=
    ofList_append_entries [] bindings
  rw [ofList_append, merged, ofList_append]

/-- Bindings may be merged chunk by chunk. -/
theorem ofList_flatMap_entries (bindings : List Binding) (chunks : List (List Binding)) :
    ofList (bindings ++ chunks.flatMap fun chunk => (ofList chunk).entries) =
      ofList (bindings ++ chunks.flatten) := by
  induction chunks generalizing bindings with
  | nil => rfl
  | cons chunk chunks ih =>
      rw [List.flatMap_cons, ← List.append_assoc, ih, ofList_append, ofList_append_entries,
        ← ofList_append, List.append_assoc, List.flatten_cons]

end BindingTable

namespace BoundValue

/-- The bindings of one source in which these values are found. -/
def merged (bounds : List BoundValue) : List Binding :=
  (BindingTable.ofList (bounds.map toBinding)).entries

/-- The values of one name in the order in which they are first found. -/
def valuesOf (bounds : List BoundValue) (identifier : String) : List String :=
  ((bounds.filter (·.identifier = identifier)).map (·.value)).eraseDups

theorem valuesOf_prefix {bounds others : List BoundValue} (front : bounds <+: others)
    (identifier : String) : valuesOf bounds identifier <+: valuesOf others identifier := by
  obtain ⟨later, rfl⟩ := front
  rw [valuesOf, valuesOf, List.filter_append, List.map_append, List.eraseDups_append]
  exact List.prefix_append _ _

theorem valuesOf_map (offset : Nat) (identifier : String) (values : List String) :
    valuesOf (values.map fun value => ⟨offset, identifier, value⟩) identifier =
      values.eraseDups := by
  rw [valuesOf, List.filter_eq_self.mpr (by simp), List.map_map]
  exact congrArg List.eraseDups (List.map_id values)

/-- Each name with its values, all in the order in which they are first found. -/
def inOrder (bounds : List BoundValue) : List Binding :=
  (bounds.map (·.identifier)).eraseDups.map fun identifier =>
    ⟨identifier, valuesOf bounds identifier⟩

theorem valuesGiven_toBinding (bounds : List BoundValue) (identifier : String) :
    valuesGiven (bounds.map toBinding) identifier =
      (bounds.filter (·.identifier = identifier)).map (·.value) := by
  rw [valuesGiven, List.filter_map, List.flatMap_map]
  exact List.map_eq_flatMap.symm

theorem merged_eq_inOrder (bounds : List BoundValue) : merged bounds = inOrder bounds := by
  rw [merged, BindingTable.entries_ofList, inOrderOfAppearance, List.map_map]
  exact List.map_congr_left fun name _ => by rw [valuesGiven_toBinding, valuesOf]

theorem lookup_merged (bounds : List BoundValue) (identifier : String) :
    BindingTable.lookup ⟨merged bounds⟩ identifier = valuesOf bounds identifier := by
  rw [merged_eq_inOrder, inOrder, BindingTable.lookup_map]
  split
  · rfl
  · rename_i unknown
    have none : bounds.filter (·.identifier = identifier) = [] := by
      refine List.filter_eq_nil_iff.mpr fun bound member => ?_
      rintro same
      rw [List.mem_eraseDups, ← of_decide_eq_true same] at unknown
      exact unknown (List.mem_map_of_mem member)
    rw [valuesOf, none]
    rfl

end BoundValue

theorem Binding.ofSource_eq (source : SourceFile) :
    ofSource source = BoundValue.merged (BoundValue.ofSource source) := rfl

/-- Values may be merged source by source, wherever the sources are cut.  The table is the one of
all values one by one, with everything in the order of its first appearance, and it can be taken up
again from its entries. -/
theorem merging_keeps_order (chunks : List (List BoundValue)) :
    BindingTable.ofList (chunks.flatMap BoundValue.merged) =
        BindingTable.ofList (chunks.flatten.map BoundValue.toBinding) ∧
      (BindingTable.ofList (chunks.flatten.map BoundValue.toBinding)).entries =
        BoundValue.inOrder chunks.flatten ∧
      ∀ old new : List Binding, BindingTable.ofList (old ++ new) =
        BindingTable.ofList ((BindingTable.ofList old).entries ++ new) := by
  refine ⟨?_, BoundValue.merged_eq_inOrder _,
    fun old new => (BindingTable.ofList_entries_append old new).symm⟩
  have merged := BindingTable.ofList_flatMap_entries [] (chunks.map (·.map BoundValue.toBinding))
  rw [List.flatMap_map] at merged
  rw [List.map_flatten]
  exact merged

end AssetAudit
