import AssetAudit.Proofs.Binding.Fold
import AssetAudit.Proofs.Resolution.Growth

namespace AssetAudit

/-! Further values for names that have some already.  Every placeholder is still answered by the key
that answered it before, or by the inference table, so resolution loses nothing. -/

namespace BindingTable

variable {bindings extra : List Binding}

theorem lookup_subset_append (key : String) :
    (ofList bindings).lookup key ⊆ (ofList (bindings ++ extra)).lookup key := by
  intro value member
  obtain ⟨binding, among, named, bound⟩ := mem_lookup_ofList.mp member
  exact mem_lookup_ofList.mpr ⟨binding, List.mem_append_left extra among, named, bound⟩

theorem lookup_append_eq_nil
    (known : ∀ binding ∈ extra, (ofList bindings).lookup binding.identifier ≠ []) {key : String}
    (silent : (ofList bindings).lookup key = []) :
    (ofList (bindings ++ extra)).lookup key = [] := by
  refine List.eq_nil_iff_forall_not_mem.mpr fun value member => ?_
  obtain ⟨binding, among, named, bound⟩ := mem_lookup_ofList.mp member
  rcases List.mem_append.mp among with old | added
  · have found : value ∈ (ofList bindings).lookup key :=
      mem_lookup_ofList.mpr ⟨binding, old, named, bound⟩
    simp [silent] at found
  · exact known binding added (named ▸ silent)

end BindingTable

namespace Template

variable {table wider : BindingTable} {config : Config} {template : Template}

theorem values_subset_append {bindings extra : List Binding}
    (known : ∀ binding ∈ extra, (BindingTable.ofList bindings).lookup binding.identifier ≠ [])
    (config : Config) (template : Template) :
    template.values (.ofList bindings) config ⊆
      template.values (.ofList (bindings ++ extra)) config := by
  intro value member
  refine mem_values_of_grows (.refl config) (fun key => ?_) (fun key vain => ?_) member
  · exact fun found => BindingTable.lookup_subset_append key found
  · have silent := BindingTable.lookup_of_mem_vainKeys vain
    exact Or.inl (BindingTable.lookup_append_eq_nil known silent)

theorem resolve_grows
    (kept : template.allDerivations table config ⊆ template.allDerivations wider config) :
    ∀ entry ∈ template.resolve table config, ∃ more ∈ template.resolve wider config,
      more.name = entry.name ∧ entry.values ⊆ more.values := by
  intro entry member
  obtain ⟨named, values⟩ := mem_resolve.mp member
  have stillNamed : entry.name ∈ template.names wider config := by
    simp only [names, Text.mem_sortedSet] at named ⊢
    exact List.map_subset _ kept named
  refine ⟨⟨entry.name, valuesOf (template.allDerivations wider config) entry.name⟩,
    mem_resolve.mpr ⟨stillNamed, rfl⟩, rfl, fun value bound => ?_⟩
  rw [values, mem_valuesOf] at bound
  obtain ⟨derivation, found, same, bound⟩ := bound
  exact mem_valuesOf.mpr ⟨derivation, kept found, same, bound⟩

/-- A form of a name comes from the name alone or from one of its values. -/
theorem mem_expandName {name form : String} {values : List String} :
    form ∈ expandName config name values ↔
      form ∈ expandName config name [] ∨
        ∃ value ∈ values, form ∈ expandName config name [value] := by
  unfold expandName
  split
  · simp
  · simp only [List.mem_append, List.mem_flatMap, List.mem_filter, List.mem_singleton,
      List.not_mem_nil, false_and, exists_false, or_false]
    grind

/-- The candidates of a template are the forms of its resolved names. -/
theorem mem_candidates {form : String} :
    form ∈ template.candidates table config ↔
      ∃ entry ∈ template.resolve table config,
        form ∈ expandName config entry.name entry.values := by
  rw [candidates, List.mem_flatMap]
  constructor
  · rintro ⟨derivation, found, expanded⟩
    have named : derivation.name ∈ template.names table config := by
      simp only [names, Text.mem_sortedSet]
      exact List.mem_map_of_mem found
    refine ⟨⟨derivation.name, valuesOf (template.allDerivations table config) derivation.name⟩,
      mem_resolve.mpr ⟨named, rfl⟩, mem_expandName.mpr ?_⟩
    refine (mem_expandName.mp expanded).imp_right fun ⟨value, bound, placed⟩ => ?_
    exact ⟨value, mem_valuesOf.mpr ⟨derivation, found, rfl, bound⟩, placed⟩
  · rintro ⟨entry, member, expanded⟩
    obtain ⟨named, values⟩ := mem_resolve.mp member
    rcases mem_expandName.mp expanded with alone | ⟨value, bound, placed⟩
    · simp only [names, Text.mem_sortedSet] at named
      obtain ⟨derivation, found, same⟩ := List.mem_map.mp named
      exact ⟨derivation, found, mem_expandName.mpr (Or.inl (same ▸ alone))⟩
    · rw [values, mem_valuesOf] at bound
      obtain ⟨derivation, found, same, bound⟩ := bound
      exact ⟨derivation, found, mem_expandName.mpr (Or.inr ⟨value, bound, same ▸ placed⟩)⟩

end Template

/-- Bindings that give further values to bound names leave every resolved name with all its values,
and every candidate. -/
theorem resolution_keeps_names {bindings extra : List Binding}
    (known : ∀ binding ∈ extra, (BindingTable.ofList bindings).lookup binding.identifier ≠ [])
    (config : Config) :
    (∀ template : Template, ∀ entry ∈ template.resolve (.ofList bindings) config,
      ∃ more ∈ template.resolve (.ofList (bindings ++ extra)) config,
        more.name = entry.name ∧ entry.values ⊆ more.values) ∧
    ∀ templates : List Template,
      templates.flatMap (·.candidates (.ofList bindings) config) ⊆
        templates.flatMap (·.candidates (.ofList (bindings ++ extra)) config) := by
  have kept (template : Template) :
      template.allDerivations (.ofList bindings) config ⊆
        template.allDerivations (.ofList (bindings ++ extra)) config :=
    Template.allDerivations_subset
      (fun inner _ value bound => Template.values_subset_append known config inner bound)
      (Nat.le_refl _)
  have grows (template : Template) := Template.resolve_grows (kept template)
  refine ⟨grows, fun templates form member => ?_⟩
  obtain ⟨template, among, candidate⟩ := List.mem_flatMap.mp member
  obtain ⟨entry, resolved, expanded⟩ := Template.mem_candidates.mp candidate
  obtain ⟨more, found, named, values⟩ := grows template entry resolved
  refine List.mem_flatMap.mpr ⟨template, among, Template.mem_candidates.mpr ⟨more, found, ?_⟩⟩
  rw [named]
  exact Template.mem_expandName.mpr ((Template.mem_expandName.mp expanded).imp_right
    fun ⟨value, bound, placed⟩ => ⟨value, values bound, placed⟩)

/-- The added value holds a placeholder of its own. -/
theorem resolution_keeps_day :
    (∀ binding ∈ [⟨"mode", ["\\(hour)_sky"]⟩],
      (BindingTable.ofList [⟨"mode", ["Day"]⟩, ⟨"hour", ["Noon"]⟩]).lookup
        (Binding.identifier binding) ≠ []) ∧
      "bg_Day" ∈ [(⟨"bg_", "mode", ""⟩ : Template)].flatMap (·.candidates
        (.ofList ([⟨"mode", ["Day"]⟩, ⟨"hour", ["Noon"]⟩] ++ [⟨"mode", ["\\(hour)_sky"]⟩])) {}) := by
  have known : ∀ binding ∈ [⟨"mode", ["\\(hour)_sky"]⟩],
      (BindingTable.ofList [⟨"mode", ["Day"]⟩, ⟨"hour", ["Noon"]⟩]).lookup
        (Binding.identifier binding) ≠ [] := by
    decide
  exact ⟨known, (resolution_keeps_names known {}).2 _ (by decide)⟩

end AssetAudit
