import AssetAudit.Binding.Table

namespace AssetAudit

/-! What a table of bindings holds after all of them have arrived: under each name the values of
all its bindings, whatever their order. -/

theorem mem_addValue {values : List String} {value added : String} :
    value ∈ addValue values added ↔ value ∈ values ∨ value = added := by
  unfold addValue
  split
  · rename_i known
    exact ⟨Or.inl, fun either => either.elim id fun same => same ▸ known⟩
  · simp

theorem mem_addValues {old new : List String} {value : String} :
    value ∈ addValues old new ↔ value ∈ old ∨ value ∈ new := by
  unfold addValues
  induction new generalizing old with
  | nil => simp
  | cons first rest ih =>
      rw [List.foldl_cons, ih, mem_addValue, List.mem_cons, or_assoc]

namespace BindingTable

theorem lookup_cons (entry : Binding) (rest : List Binding) (identifier : String) :
    lookup ⟨entry :: rest⟩ identifier =
      if entry.identifier = identifier then entry.values else lookup ⟨rest⟩ identifier := by
  by_cases same : entry.identifier = identifier
  · simp [lookup, same]
  · simp [lookup, same]

theorem lookup_map (names : List String) (values : String → List String) (identifier : String) :
    lookup ⟨names.map fun name => ⟨name, values name⟩⟩ identifier =
      if identifier ∈ names then values identifier else [] := by
  induction names with
  | nil => rfl
  | cons name names ih =>
      rw [List.map_cons, lookup_cons, ih]
      by_cases here : name = identifier
      · simp [here]
      · simp [here, Ne.symm here]

theorem lookup_addTo (entries : List Binding) (binding : Binding) (identifier : String) :
    lookup ⟨addTo entries binding⟩ identifier =
      if binding.identifier = identifier then addValues (lookup ⟨entries⟩ identifier) binding.values
      else lookup ⟨entries⟩ identifier := by
  induction entries with
  | nil => rw [addTo, lookup_cons]; rfl
  | cons entry rest ih =>
      by_cases known : entry.identifier = binding.identifier
      · rw [addTo, if_pos known, lookup_cons, lookup_cons, known]
        split <;> rfl
      · rw [addTo, if_neg known, lookup_cons, lookup_cons, ih]
        split
        · rename_i same
          rw [if_neg fun other => known (same.trans other.symm)]
        · rfl

theorem mem_lookup_add {table : BindingTable} {binding : Binding} {identifier value : String} :
    value ∈ (table.add binding).lookup identifier ↔
      value ∈ table.lookup identifier ∨
        binding.identifier = identifier ∧ value ∈ binding.values := by
  rw [add, lookup_addTo]
  split
  · rename_i same
    simp [mem_addValues, same]
  · rename_i different
    simp [different]

theorem mem_lookup_ofList {bindings : List Binding} {identifier value : String} :
    value ∈ (ofList bindings).lookup identifier ↔
      ∃ binding ∈ bindings, binding.identifier = identifier ∧ value ∈ binding.values := by
  suffices history : ∀ table : BindingTable, value ∈ (bindings.foldl add table).lookup identifier ↔
      value ∈ table.lookup identifier ∨
        ∃ binding ∈ bindings, binding.identifier = identifier ∧ value ∈ binding.values by
    simpa [ofList, empty, lookup] using history empty
  induction bindings with
  | nil => simp
  | cons first rest ih =>
      intro table
      rw [List.foldl_cons, ih, mem_lookup_add, or_assoc]
      simp

end BindingTable

end AssetAudit
