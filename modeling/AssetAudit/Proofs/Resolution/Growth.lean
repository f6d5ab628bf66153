import AssetAudit.Proofs.Config.Widening
import AssetAudit.Proofs.Resolution.Chains

namespace AssetAudit

/-! How resolution grows with its table and its settings.  A run that gives every template it meets
at least the values of another run finds all that the other one finds. -/

/-- The keys of an expression that are asked in vain, up to the first one with values. -/
def BindingTable.vainKeys (table : BindingTable) (expression : String) : List String :=
  (lookupKeys expression).takeWhile fun key => (table.lookup key).isEmpty

theorem BindingTable.lookup_of_mem_vainKeys {table : BindingTable} {expression key : String}
    (vain : key ∈ table.vainKeys expression) : table.lookup key = [] := by
  have silent := List.all_eq_true.mp List.all_takeWhile key vain
  exact List.isEmpty_iff.mp silent

/-- The templates whose placeholders are filled when this one is resolved. -/
def Template.Meets (table : BindingTable) (config : Config) (template inner : Template) : Prop :=
  inner = template ∨
    ∃ values name, SubstitutionChain table config template values name ∧
      values.length < config.maxExpansionDepth ∧ Template.ofName? name = some inner

variable {table wider : BindingTable} {config deeper : Config} {template : Template}

/-- The first answer keeps a value when no table entry loses it, when a key that was asked in vain
either stays silent or answers with the value as well, and when the answer without a key keeps
it. -/
theorem mem_firstAnswer_grows {keys fallback more : List String} {value : String}
    (keeps : ∀ key, value ∈ table.lookup key → value ∈ wider.lookup key)
    (covers : ∀ key ∈ keys.takeWhile fun key => (table.lookup key).isEmpty,
      wider.lookup key = [] ∨ value ∈ wider.lookup key)
    (fallbackKept : value ∈ fallback → value ∈ more)
    (member : value ∈ ((keys.map table.lookup).find? (!·.isEmpty)).getD fallback) :
    value ∈ ((keys.map wider.lookup).find? (!·.isEmpty)).getD more := by
  have answered : ∀ key, value ∈ wider.lookup key → (wider.lookup key).isEmpty = false :=
    fun key found => List.isEmpty_eq_false_iff.mpr (List.ne_nil_of_mem found)
  induction keys with
  | nil => exact fallbackKept member
  | cons key rest ih =>
      cases answer : table.lookup key with
      | nil =>
          have restCovers : ∀ later ∈ rest.takeWhile fun key => (table.lookup key).isEmpty,
              wider.lookup later = [] ∨ value ∈ wider.lookup later :=
            fun later vain => covers later (by simp [answer, vain])
          have restMember : value ∈ ((rest.map table.lookup).find? (!·.isEmpty)).getD fallback := by
            simpa [answer] using member
          rcases covers key (by simp [answer]) with silent | found
          · simpa [silent] using ih restCovers restMember
          · simpa [answered key found] using found
      | cons first others =>
          have found : value ∈ wider.lookup key := by
            apply keeps key
            simpa [answer] using member
          simpa [answered key found] using found

theorem Template.mem_values_of_grows (widened : config.IsWidenedBy deeper) {value : String}
    (keeps : ∀ key, value ∈ table.lookup key → value ∈ wider.lookup key)
    (covers : ∀ key ∈ table.vainKeys template.placeholder,
      wider.lookup key = [] ∨ value ∈ wider.lookup key)
    (member : value ∈ template.values table config) : value ∈ template.values wider deeper :=
  mem_firstAnswer_grows keeps covers (fun inferred => widened.inferValues _ inferred) member

/-- A chain of one run is a chain of any other that gives the templates on the way at least the
same values. -/
theorem SubstitutionChain.mono {values : List String} {name : String}
    (grows : ∀ inner, template.Meets table config inner →
      ∀ value ∈ inner.values table config, value ∈ inner.values wider deeper)
    (bound : values.length ≤ max 1 config.maxExpansionDepth)
    (chain : SubstitutionChain table config template values name) :
    SubstitutionChain wider deeper template values name := by
  induction chain with
  | first member => exact .first (grows template (Or.inl rfl) _ member)
  | next chain templated parts member ih =>
      rw [List.length_append, List.length_singleton] at bound
      have positive := chain.values_length_pos
      have met : template.Meets table config _ := Or.inr ⟨_, _, chain, by omega, parts⟩
      exact .next (ih (by omega)) templated parts (grows _ met _ member)

namespace Template

theorem allDerivations_subset
    (grows : ∀ inner, template.Meets table config inner →
      ∀ value ∈ inner.values table config, value ∈ inner.values wider deeper)
    (further : config.maxExpansionDepth ≤ deeper.maxExpansionDepth) :
    template.allDerivations table config ⊆ template.allDerivations wider deeper := by
  intro derivation found
  obtain ⟨chain, complete, bound⟩ := mem_allDerivations.mp found
  exact mem_allDerivations.mpr ⟨chain.mono grows bound, complete, by omega⟩

theorem expandName_subset (widened : config.IsWidenedBy deeper) (name : String)
    (values : List String) : expandName config name values ⊆ expandName deeper name values := by
  intro form member
  unfold expandName at member ⊢
  simp only at member ⊢
  split
  · rename_i withDirectory
    rw [if_pos withDirectory] at member
    split
    · rename_i lastEmpty
      rwa [if_pos lastEmpty] at member
    · rename_i lastNonempty
      rw [if_neg lastNonempty] at member
      exact (List.mem_append.mp member).elim (List.mem_append_left _) fun suffixed =>
        List.mem_append_right _ (List.map_subset _ widened.roleSuffixes suffixed)
  · rename_i plain
    rw [if_neg plain] at member
    refine (List.mem_append.mp member).elim (List.mem_append_left _) fun placed => ?_
    obtain ⟨value, among, expanded⟩ := List.mem_flatMap.mp placed
    exact List.mem_append_right _ (List.mem_flatMap.mpr
      ⟨value, among, List.map_subset _ widened.assetDirectories expanded⟩)

theorem candidates_subset (widened : config.IsWidenedBy deeper)
    (grows : ∀ inner, template.Meets table config inner →
      ∀ value ∈ inner.values table config, value ∈ inner.values wider deeper) :
    template.candidates table config ⊆ template.candidates wider deeper := by
  intro name member
  obtain ⟨derivation, found, form⟩ := List.mem_flatMap.mp member
  exact List.mem_flatMap.mpr ⟨derivation,
    allDerivations_subset grows widened.maxExpansionDepth found, expandName_subset widened _ _ form⟩

end Template

end AssetAudit
