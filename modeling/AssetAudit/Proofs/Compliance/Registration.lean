import AssetAudit.Compliance.Registry
import AssetAudit.Proofs.KeyedList

namespace AssetAudit

/-! What a register holds after any calls.  The module that registers a name first keeps it.  The
built-in rules are registered by a search for them only if no other rule is there before. -/

namespace RegistryCall

/-- All calls but a registration look for the built-in rules. -/
def discovers : RegistryCall → Bool
  | register _ _ => false
  | _ => true

/-- The name of the rule that the call is to register, with the module. -/
def claim? : RegistryCall → Option (String × RuleModule)
  | register owner (some rule) => some (rule.name, owner)
  | _ => none

/-- The built-in rules are looked for before a rule is registered. -/
def discoverFirst : List RegistryCall → Bool
  | [] => false
  | call :: rest => call.discovers || call.claim?.isNone && discoverFirst rest

theorem claims_cons (call : RegistryCall) (rest : List RegistryCall) :
    (call :: rest).filterMap claim? = call.claim?.toList ++ rest.filterMap claim? := by
  cases claim : call.claim? with
  | none => rw [List.filterMap_cons_none claim]; rfl
  | some claimed => rw [List.filterMap_cons_some claim]; rfl

theorem discovers_or_register (call : RegistryCall) :
    (call.discovers = true ∧ call.claim? = none) ∨ (∃ owner, call = register owner none) ∨
      ∃ owner rule, call = register owner (some rule) := by
  cases call with
  | register owner rule? =>
      cases rule? with
      | none => exact Or.inr (Or.inl ⟨owner, rfl⟩)
      | some rule => exact Or.inr (Or.inr ⟨owner, rule, rfl⟩)
  | discover | allRules | get | ownerOf => exact Or.inl ⟨rfl, rfl⟩

end RegistryCall

namespace Registry

/-- Every built-in rule is registered, by its own module. -/
def IsComplete (registry : Registry) : Prop :=
  ∀ family, (Rule.builtIn family).name ∈ registry.names ∧
    KeyedList.get? registry.owners (Rule.builtIn family).name = some (.builtIn family)

/-- The register behind a call, and behind all calls of a list. -/
def next (registry : Registry) (call : RegistryCall) : Registry := (registry.answer call).2

def after (registry : Registry) (calls : List RegistryCall) : Registry :=
  calls.foldl next registry

def standard : Registry where
  rules := Family.byRuleName.map fun family => ((Rule.builtIn family).name, .builtIn family)
  owners := Family.byRuleName.map fun family => ((Rule.builtIn family).name, .builtIn family)

theorem discover_empty : empty.discover = .ok standard := rfl

theorem discover_filled {registry : Registry} (filled : registry.rules ≠ []) :
    registry.discover = .ok registry := by
  rw [discover, if_neg (by simpa using filled)]

theorem next_of_discovers {registry found : Registry} {call : RegistryCall}
    (asks : call.discovers = true) (discovered : registry.discover = .ok found) :
    registry.next call = found := by
  cases call with
  | register owner rule? => cases asks
  | discover | allRules | get | ownerOf =>
      simp only [next, answer, answer.discovered, discovered]

/-- The rules and the modules have the same names. -/
def IsPaired (registry : Registry) : Prop :=
  ∀ name, name ∈ registry.names ↔ name ∈ KeyedList.names registry.owners

theorem IsPaired.isComplete_iff {registry : Registry} (paired : registry.IsPaired) :
    registry.IsComplete ↔ ∀ family,
      KeyedList.get? registry.owners (Rule.builtIn family).name = some (.builtIn family) := by
  refine forall_congr' fun family => and_iff_right_of_imp fun owned => ?_
  exact (paired _).mpr (List.mem_map.mpr ⟨_, KeyedList.mem_of_get? owned, rfl⟩)

/-- A registration enters the rule unless another module has its name. -/
theorem register_cases (registry : Registry) (owner : RuleModule) (rule : Rule) :
    (∃ next, registry.register owner (some rule) = .ok next ∧
      next.rules = KeyedList.put registry.rules rule.name rule ∧
      next.owners = KeyedList.put registry.owners rule.name owner ∧
      ∀ known, KeyedList.get? registry.owners rule.name = some known → known = owner) ∨
    ∃ known, registry.register owner (some rule) =
        .error (.conflict rule.name known.name owner.name) ∧
      KeyedList.get? registry.owners rule.name = some known := by
  simp only [register]
  cases held : KeyedList.get? registry.owners rule.name with
  | none => exact Or.inl ⟨_, rfl, rfl, rfl, by simp⟩
  | some known =>
      by_cases same : known = owner
      · exact Or.inl ⟨_, if_pos same, rfl, rfl, fun _ found => Option.some.inj found ▸ same⟩
      · exact Or.inr ⟨known, if_neg same, rfl⟩

/-- The first module that claims a name keeps it. -/
theorem owners_register (registry : Registry) (owner : RuleModule) (rule : Rule) (name : String) :
    KeyedList.get? (registry.next (.register owner (some rule))).owners name =
      (KeyedList.get? registry.owners name).or (KeyedList.get? [(rule.name, owner)] name) := by
  obtain ⟨next, entered, -, owners, same⟩ | ⟨known, refused, held⟩ :=
    register_cases registry owner rule
  · simp only [Registry.next, answer, entered, owners]
    by_cases claimed : name = rule.name
    · subst claimed
      rw [KeyedList.get?_put_same]
      cases held : KeyedList.get? registry.owners rule.name with
      | none => simp [KeyedList.get?]
      | some known => rw [same known held, Option.some_or]
    · rw [KeyedList.get?_put_other _ _ claimed]
      simp [KeyedList.get?, Ne.symm claimed]
  · simp only [Registry.next, answer, refused]
    by_cases claimed : name = rule.name
    · rw [claimed, held, Option.some_or]
    · simp [KeyedList.get?, Ne.symm claimed]

theorem IsPaired.eq_empty {registry : Registry} (paired : registry.IsPaired)
    (bare : registry.rules = []) : registry = empty := by
  obtain ⟨rules, owners⟩ := registry
  obtain rfl : rules = [] := bare
  cases owners with
  | nil => rfl
  | cons entry rest => cases (paired entry.1).mpr List.mem_cons_self

theorem standard_isPaired : standard.IsPaired := fun _ => Iff.rfl

theorem IsPaired.discover {registry : Registry} (paired : registry.IsPaired) :
    ∃ found, registry.discover = .ok found ∧ found.IsPaired := by
  by_cases bare : registry.rules = []
  · rw [paired.eq_empty bare]
    exact ⟨standard, discover_empty, standard_isPaired⟩
  · exact ⟨registry, discover_filled bare, paired⟩

theorem IsPaired.next {registry : Registry} (paired : registry.IsPaired) (call : RegistryCall) :
    (registry.next call).IsPaired := by
  obtain ⟨asks, -⟩ | ⟨owner, rfl⟩ | ⟨owner, rule, rfl⟩ := call.discovers_or_register
  · obtain ⟨found, discovered, foundPaired⟩ := paired.discover
    rwa [next_of_discovers asks discovered]
  · exact paired
  · obtain ⟨next, entered, rules, owners, -⟩ | ⟨known, refused, -⟩ :=
      register_cases registry owner rule
    · simp only [Registry.next, answer, entered]
      intro name
      rw [names, rules, owners, KeyedList.mem_names_put, KeyedList.mem_names_put]
      exact or_congr_left (paired name)
    · simpa only [Registry.next, answer, refused] using paired

theorem IsPaired.after {registry : Registry} (paired : registry.IsPaired)
    (calls : List RegistryCall) : (registry.after calls).IsPaired := by
  induction calls generalizing registry with
  | nil => exact paired
  | cons call rest ih => exact ih (paired.next call)

theorem empty_isPaired : empty.IsPaired := fun _ => Iff.rfl

theorem register_filled (registry : Registry) (owner : RuleModule) (rule : Rule)
    (filled : registry.rules ≠ [] ∨ registry.owners = []) :
    (registry.next (.register owner (some rule))).rules ≠ [] := by
  obtain ⟨next, entered, rules, -, -⟩ | ⟨known, refused, held⟩ :=
    register_cases registry owner rule
  · simp only [Registry.next, answer, entered, rules]
    exact KeyedList.put_ne_nil registry.rules rule.name rule
  · simp only [Registry.next, answer, refused]
    refine filled.resolve_right fun none => ?_
    rw [none] at held
    cases held

/-- A call to a register that is not empty registers at most the rule that it brings. -/
theorem next_of_filled {registry : Registry} (filled : registry.rules ≠ []) (call : RegistryCall) :
    (registry.next call).rules ≠ [] ∧ ∀ name,
      KeyedList.get? (registry.next call).owners name =
        (KeyedList.get? registry.owners name).or (KeyedList.get? call.claim?.toList name) := by
  obtain ⟨asks, none⟩ | ⟨owner, rfl⟩ | ⟨owner, rule, rfl⟩ := call.discovers_or_register
  · rw [next_of_discovers asks (discover_filled filled), none]
    exact ⟨filled, fun name => (Option.or_none ..).symm⟩
  · exact ⟨filled, fun name => (Option.or_none ..).symm⟩
  · exact ⟨register_filled registry owner rule (Or.inl filled),
      owners_register registry owner rule⟩

/-- From a register that is not empty on, the owners are those who claim their names first. -/
theorem owners_after {registry : Registry} (filled : registry.rules ≠ [])
    (calls : List RegistryCall) (name : String) :
    KeyedList.get? (registry.after calls).owners name =
      (KeyedList.get? registry.owners name).or
        (KeyedList.get? (calls.filterMap RegistryCall.claim?) name) := by
  induction calls generalizing registry with
  | nil => exact (Option.or_none ..).symm
  | cons call rest ih =>
      obtain ⟨further, owners⟩ := next_of_filled filled call
      rw [after, List.foldl_cons, ← after, ih further, owners, RegistryCall.claims_cons,
        KeyedList.get?_append, Option.or_assoc]

theorem standard_isComplete (family : Family) :
    KeyedList.get? standard.owners (Rule.builtIn family).name = some (.builtIn family) := by
  cases family <;> rfl

theorem owners_after_empty (calls : List RegistryCall) :
    (∀ family, KeyedList.get? (empty.after calls).owners (Rule.builtIn family).name =
        some (.builtIn family)) ↔
      RegistryCall.discoverFirst calls = true ∨
        ∀ family, KeyedList.get? (calls.filterMap RegistryCall.claim?) (Rule.builtIn family).name =
          some (.builtIn family) := by
  -- on the calls up to the first one that registers a rule; `owners_after` knows the others
  induction calls with
  | nil => exact ⟨Or.inr, fun claimed => claimed.resolve_left Bool.false_ne_true⟩
  | cons call rest ih =>
      obtain ⟨asks, -⟩ | ⟨owner, rfl⟩ | ⟨owner, rule, rfl⟩ := call.discovers_or_register
      · refine iff_of_true (fun family => ?_) (Or.inl (by simp [RegistryCall.discoverFirst, asks]))
        have filled : standard.rules ≠ [] := List.cons_ne_nil _ _
        rw [after, List.foldl_cons, ← after, next_of_discovers asks discover_empty,
          owners_after filled, standard_isComplete, Option.some_or]
      · exact ih
      · have filled := register_filled empty owner rule (Or.inr rfl)
        have late : RegistryCall.discoverFirst (.register owner (some rule) :: rest) ≠ true :=
          Bool.false_ne_true
        rw [or_iff_right late]
        refine forall_congr' fun family => ?_
        rw [after, List.foldl_cons, ← after, owners_after filled, owners_register,
          RegistryCall.claims_cons, KeyedList.get?_append]
        rfl

end Registry

/-- A search for the built-in rules never fails.  Behind any calls the register has all of them just
if they were looked for before any rule was registered, or if their own modules were the first to
register their names. -/
theorem registry_complete_iff (calls : List RegistryCall) :
    (∃ found, (Registry.empty.after calls).discover = .ok found) ∧
      ((Registry.empty.after calls).IsComplete ↔
        RegistryCall.discoverFirst calls = true ∨
          ∀ family, KeyedList.get? (calls.filterMap RegistryCall.claim?)
            (Rule.builtIn family).name = some (.builtIn family)) := by
  have paired := Registry.empty_isPaired.after calls
  obtain ⟨found, discovered, -⟩ := paired.discover
  exact ⟨⟨found, discovered⟩, paired.isComplete_iff.trans (Registry.owners_after_empty calls)⟩

def contrastRule : Rule := ⟨"contrast", .catalog, "", none⟩

/-- Registered before the search, the rule keeps the built-in rules out; after it, it does not. -/
theorem contrastRule_hides_builtIn :
    let registration := RegistryCall.register (.outside "m1") (some contrastRule)
    ¬ (Registry.empty.after [registration, .discover]).IsComplete ∧
      (Registry.empty.after [.discover, registration]).IsComplete := by
  refine ⟨fun complete => ?_, (registry_complete_iff _).2.mpr (Or.inl rfl)⟩
  obtain early | claimed := (registry_complete_iff _).2.mp complete
  · cases early
  · cases claimed .catalog

end AssetAudit
