import AssetAudit.Proofs.Text.CanonicalSet
import AssetAudit.Resolution
import Mathlib.Logic.Function.Iterate

namespace AssetAudit

/-! Substitution chains say what it means for a template to become a name.  The passes over the
pending names find the chains of bounded length and no others: after `n` passes the pending names
are those at the end of a chain with `n + 1` values. -/

/-- The template becomes the name when these values are put into it one after the other. -/
inductive SubstitutionChain (table : BindingTable) (config : Config) (template : Template) :
    List String → String → Prop
  | first {value : String} (bound : value ∈ template.values table config) :
      SubstitutionChain table config template [value] (template.render value)
  | next {values : List String} {name value : String} {inner : Template}
      (chain : SubstitutionChain table config template values name)
      (templated : hasPlaceholder name = true)
      (parts : Template.ofName? name = some inner)
      (bound : value ∈ inner.values table config) :
      SubstitutionChain table config template (values ++ [value]) (inner.render value)

variable {table : BindingTable} {config : Config} {template : Template}

theorem SubstitutionChain.values_length_pos {values : List String} {name : String}
    (chain : SubstitutionChain table config template values name) : 0 < values.length := by
  cases chain <;> simp

theorem SubstitutionChain.not_nil {name : String} :
    ¬ SubstitutionChain table config template [] name :=
  fun chain => absurd chain.values_length_pos (Nat.lt_irrefl 0)

/-- The last substitution of a chain, which may be the only one. -/
theorem SubstitutionChain.last {values : List String} {name : String}
    (chain : SubstitutionChain table config template values name) :
    (∃ value ∈ template.values table config, name = template.render value ∧ values = [value]) ∨
      ∃ before origin inner, SubstitutionChain table config template before origin ∧
        hasPlaceholder origin = true ∧ Template.ofName? origin = some inner ∧
        ∃ value ∈ inner.values table config,
          name = inner.render value ∧ values = before ++ [value] := by
  cases chain with
  | first bound => exact Or.inl ⟨_, bound, rfl, rfl⟩
  | next chain templated parts bound =>
      exact Or.inr ⟨_, _, _, chain, templated, parts, _, bound, rfl, rfl⟩

/-- A chain from the name that a first value leaves templated. -/
theorem SubstitutionChain.prepend {inner : Template} {value name : String} {values : List String}
    (bound : value ∈ template.values table config)
    (templated : hasPlaceholder (template.render value) = true)
    (parts : Template.ofName? (template.render value) = some inner)
    (chain : SubstitutionChain table config inner values name) :
    SubstitutionChain table config template (value :: values) name := by
  induction chain with
  | first last => exact .next (.first bound) templated parts last
  | next _ stillTemplated innerParts last ih => exact .next ih stillTemplated innerParts last

/-- A chain read from its front. -/
theorem SubstitutionChain.cons_iff {value name : String} {values : List String} :
    SubstitutionChain table config template (value :: values) name ↔
      value ∈ template.values table config ∧
        ((values = [] ∧ name = template.render value) ∨
          ∃ inner, hasPlaceholder (template.render value) = true ∧
            Template.ofName? (template.render value) = some inner ∧
            SubstitutionChain table config inner values name) := by
  constructor
  · intro chain
    generalize all : value :: values = given at chain
    induction chain generalizing values with
    | first bound =>
        obtain ⟨rfl, rfl⟩ := List.cons.inj all
        exact ⟨bound, Or.inl ⟨rfl, rfl⟩⟩
    | @next before _ last _ chain templated parts bound ih =>
        cases before with
        | nil => exact (SubstitutionChain.not_nil chain).elim
        | cons head before =>
            obtain ⟨rfl, rfl⟩ := List.cons.inj all
            obtain ⟨starts, rest⟩ := ih rfl
            refine ⟨starts, Or.inr ?_⟩
            rcases rest with ⟨rfl, rfl⟩ | ⟨inner, opened, cut, chain⟩
            · exact ⟨_, templated, parts, .first bound⟩
            · exact ⟨inner, opened, cut, .next chain templated parts bound⟩
  · intro front
    obtain ⟨bound, ⟨rfl, rfl⟩ | ⟨inner, templated, parts, chain⟩⟩ := front
    · exact .first bound
    · exact chain.prepend bound templated parts

namespace Template

theorem mem_substitute {before : List String} {derivation : Derivation} :
    derivation ∈ template.substitute table config before ↔
      ∃ value ∈ template.values table config,
        derivation.name = template.render value ∧ derivation.values = before ++ [value] := by
  obtain ⟨name, values⟩ := derivation
  simp only [substitute, List.mem_map, Derivation.mk.injEq]
  constructor
  · intro found
    obtain ⟨value, bound, rfl, rfl⟩ := found
    exact ⟨value, bound, rfl, rfl⟩
  · intro found
    obtain ⟨value, bound, rfl, rfl⟩ := found
    exact ⟨value, bound, rfl, rfl⟩

theorem mem_advance {derivation origin : Derivation} :
    derivation ∈ advance table config origin ↔
      ∃ inner, ofName? origin.name = some inner ∧
        derivation ∈ inner.substitute table config origin.values := by
  cases parts : ofName? origin.name with
  | none => simp [advance, parts]
  | some inner => simp [advance, parts]

/-- The names that are pending after one more pass. -/
def nextPending (table : BindingTable) (config : Config) (pending : List Derivation) :
    List Derivation :=
  (pending.filter (·.isOpen)).flatMap (advance table config)

theorem resolvePending_nil (passes : Nat) : resolvePending table config passes [] = [] := by
  cases passes <;> rfl

theorem mem_resolvePending_succ {passes : Nat} {pending : List Derivation}
    {derivation : Derivation} :
    derivation ∈ resolvePending table config (passes + 1) pending ↔
      (derivation ∈ pending ∧ derivation.isOpen = false) ∨
        derivation ∈ resolvePending table config passes (nextPending table config pending) := by
  simp only [resolvePending, List.partition_eq_filter_filter, nextPending]
  split
  · rename_i none
    rw [List.isEmpty_iff.mp none, List.flatMap_nil, resolvePending_nil]
    simp
  · simp

/-- A derivation is found when it is complete and pending after one of the passes. -/
theorem mem_resolvePending {passes : Nat} {pending : List Derivation} {derivation : Derivation} :
    derivation ∈ resolvePending table config passes pending ↔
      derivation.isOpen = false ∧
        ∃ count ≤ passes, derivation ∈ (nextPending table config)^[count] pending := by
  induction passes generalizing pending with
  | zero =>
      simp [resolvePending, and_comm]
  | succ passes ih =>
      rw [mem_resolvePending_succ, ih]
      constructor
      · intro found
        rcases found with ⟨member, complete⟩ | ⟨complete, count, bound, member⟩
        · exact ⟨complete, 0, Nat.zero_le _, member⟩
        · exact ⟨complete, count + 1, Nat.succ_le_succ bound, member⟩
      · intro found
        obtain ⟨complete, count, bound, member⟩ := found
        cases count with
        | zero => exact Or.inl ⟨member, complete⟩
        | succ count => exact Or.inr ⟨complete, count, Nat.le_of_succ_le_succ bound, member⟩

/-- The invariant of the passes: what is pending after `count` of them stands at the end of a
chain with one value more. -/
theorem mem_pending_iff_chain {count : Nat} {derivation : Derivation} :
    derivation ∈ (nextPending table config)^[count] (template.substitute table config []) ↔
      SubstitutionChain table config template derivation.values derivation.name ∧
        derivation.values.length = count + 1 := by
  induction count generalizing derivation with
  | zero =>
      rw [Function.iterate_zero_apply, mem_substitute]
      constructor
      · intro found
        obtain ⟨value, bound, name, values⟩ := found
        exact ⟨name ▸ values ▸ .first bound, by simp [values]⟩
      · intro found
        obtain ⟨chain, length⟩ := found
        rcases chain.last with ⟨value, bound, name, values⟩ |
          ⟨before, _, _, chain, _, _, value, _, _, values⟩
        · exact ⟨value, bound, name, values⟩
        · have positive := chain.values_length_pos
          rw [values, List.length_append, List.length_singleton] at length
          omega
  | succ count ih =>
      rw [Function.iterate_succ_apply', nextPending, List.mem_flatMap]
      simp only [List.mem_filter, ih, mem_advance, mem_substitute]
      constructor
      · intro found
        obtain ⟨origin, ⟨⟨chain, length⟩, templated⟩, inner, parts, value, bound, name, values⟩ :=
          found
        exact ⟨name ▸ values ▸ .next chain templated parts bound, by simp [values, length]⟩
      · intro found
        obtain ⟨chain, length⟩ := found
        rcases chain.last with ⟨_, _, _, values⟩ |
          ⟨before, origin, inner, chain, templated, parts, value, bound, name, values⟩
        · simp [values] at length
        · rw [values, List.length_append, List.length_singleton] at length
          exact ⟨⟨origin, before⟩, ⟨⟨chain, Nat.succ.inj length⟩, templated⟩, inner, parts, value,
            bound, name, values⟩

/-- At least one substitution is always made, whatever the configured bound. -/
theorem mem_allDerivations {derivation : Derivation} :
    derivation ∈ template.allDerivations table config ↔
      SubstitutionChain table config template derivation.values derivation.name ∧
        derivation.isOpen = false ∧
        derivation.values.length ≤ max 1 config.maxExpansionDepth := by
  rw [allDerivations, mem_resolvePending]
  simp only [mem_pending_iff_chain]
  constructor
  · intro found
    obtain ⟨complete, count, bound, chain, length⟩ := found
    exact ⟨chain, complete, by omega⟩
  · intro found
    obtain ⟨chain, complete, bound⟩ := found
    have positive := chain.values_length_pos
    exact ⟨complete, derivation.values.length - 1, by omega, chain, by omega⟩

theorem mem_valuesOf {derivations : List Derivation} {name value : String} :
    value ∈ valuesOf derivations name ↔
      ∃ derivation ∈ derivations, derivation.name = name ∧ value ∈ derivation.values := by
  simp [valuesOf, and_assoc]

theorem mem_names {name : String} :
    name ∈ template.names table config ↔
      ∃ values, SubstitutionChain table config template values name ∧
        hasPlaceholder name = false ∧ values.length ≤ max 1 config.maxExpansionDepth := by
  simp only [names, Text.mem_sortedSet, List.mem_map, mem_allDerivations, Derivation.isOpen]
  constructor
  · intro found
    obtain ⟨derivation, found, rfl⟩ := found
    exact ⟨derivation.values, found⟩
  · intro found
    obtain ⟨values, found⟩ := found
    exact ⟨⟨name, values⟩, found, rfl⟩

theorem mem_resolve {entry : Derivation} :
    entry ∈ template.resolve table config ↔
      entry.name ∈ template.names table config ∧
        entry.values = valuesOf (template.allDerivations table config) entry.name := by
  obtain ⟨name, values⟩ := entry
  simp only [resolve, names, List.mem_map, Derivation.mk.injEq]
  constructor
  · intro found
    obtain ⟨_, member, rfl, rfl⟩ := found
    exact ⟨member, rfl⟩
  · intro found
    obtain ⟨member, rfl⟩ := found
    exact ⟨name, member, rfl, rfl⟩

theorem resolve_names :
    (template.resolve table config).map (·.name) = template.names table config := by
  simp [resolve, names, Function.comp_def]

/-- Resolution finds the chains of at most the configured number of substitutions that end in a
name without placeholders, and no others.  Each name comes up once, with the values of all its
chains. -/
theorem resolve_finds_bounded_chains (table : BindingTable) (config : Config)
    (template : Template) (positive : 1 ≤ config.maxExpansionDepth) :
    (template.resolve table config).map (·.name) = template.names table config ∧
      (template.names table config).Nodup ∧
      (∀ name, name ∈ template.names table config ↔
        ∃ values, SubstitutionChain table config template values name ∧
          hasPlaceholder name = false ∧
          1 ≤ values.length ∧ values.length ≤ config.maxExpansionDepth) ∧
      ∀ name value,
        (∃ entry ∈ template.resolve table config, entry.name = name ∧ value ∈ entry.values) ↔
          ∃ values, SubstitutionChain table config template values name ∧
            hasPlaceholder name = false ∧
            1 ≤ values.length ∧ values.length ≤ config.maxExpansionDepth ∧ value ∈ values := by
  have atLeastOne : max 1 config.maxExpansionDepth = config.maxExpansionDepth :=
    Nat.max_eq_right positive
  refine ⟨resolve_names, Text.sortedSet_nodup _, ?_, ?_⟩
  · intro name
    rw [mem_names, atLeastOne]
    constructor
    · intro found
      obtain ⟨values, chain, complete, bound⟩ := found
      exact ⟨values, chain, complete, chain.values_length_pos, bound⟩
    · intro found
      obtain ⟨values, chain, complete, _, bound⟩ := found
      exact ⟨values, chain, complete, bound⟩
  · intro name value
    constructor
    · intro found
      obtain ⟨entry, found, rfl, member⟩ := found
      rw [(mem_resolve.mp found).2, mem_valuesOf] at member
      obtain ⟨derivation, derived, same, member⟩ := member
      obtain ⟨chain, complete, bound⟩ := mem_allDerivations.mp derived
      rw [atLeastOne] at bound
      exact ⟨derivation.values, same ▸ chain, same ▸ complete, chain.values_length_pos, bound,
        member⟩
    · intro found
      obtain ⟨values, chain, complete, _, bound, member⟩ := found
      rw [← atLeastOne] at bound
      have named : name ∈ template.names table config :=
        mem_names.mpr ⟨values, chain, complete, bound⟩
      have derived : ⟨name, values⟩ ∈ template.allDerivations table config :=
        mem_allDerivations.mpr ⟨chain, complete, bound⟩
      exact ⟨⟨name, valuesOf (template.allDerivations table config) name⟩,
        mem_resolve.mpr ⟨named, rfl⟩, rfl, mem_valuesOf.mpr ⟨_, derived, rfl, member⟩⟩

/-- A value may lead back to its own placeholder; the chains through it are still found. -/
theorem resolve_finds_cyclic_chain :
    1 ≤ ({} : Config).maxExpansionDepth ∧
      ∃ entry ∈ (⟨"tile", "ring", ""⟩ : Template).resolve ⟨[⟨"ring", ["_\\(ring)", "_end"]⟩]⟩ {},
        entry.name = "tile__end" ∧ "_end" ∈ entry.values := by
  have positive : 1 ≤ ({} : Config).maxExpansionDepth := by decide
  have parts : ofName? "tile_\\(ring)" = some ⟨"tile_", "ring", ""⟩ := by decide
  have opened : SubstitutionChain ⟨[⟨"ring", ["_\\(ring)", "_end"]⟩]⟩ {} ⟨"tile", "ring", ""⟩
      ["_\\(ring)"] "tile_\\(ring)" := .first (by decide)
  refine ⟨positive, ((resolve_finds_bounded_chains _ _ _ positive).2.2.2 _ _).mpr
    ⟨["_\\(ring)", "_end"], ?_, by decide, by decide, by decide, by decide⟩⟩
  exact .next opened (by decide) parts (by decide)

end Template

end AssetAudit
