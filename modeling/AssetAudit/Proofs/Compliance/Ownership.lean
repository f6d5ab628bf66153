import AssetAudit.Proofs.Compliance.Registration

namespace AssetAudit

/-! Registrations by modules whose rules stay the same.  The two lists of a register keep step, a
name belongs to the first module that claims it, and a claim that is refused writes nothing. -/

/-- Work on a register step by step.  A failure keeps what was written before it. -/
abbrev RegistryWork (α : Type) := ExceptT RegistryError (StateM Registry) α

namespace RegistryWork

variable {α β : Type}

/-- The result of the work and the register behind it. -/
def outcome (work : RegistryWork α) (registry : Registry) : Except RegistryError α × Registry :=
  work.run.run registry

theorem outcome_get (registry : Registry) : outcome get registry = (.ok registry, registry) := rfl

theorem outcome_bind (work : RegistryWork α) (rest : α → RegistryWork β) (registry : Registry) :
    outcome (work >>= rest) registry =
      match outcome work registry with
      | (.ok found, left) => outcome (rest found) left
      | (.error error, left) => (.error error, left) := by
  simp only [outcome, ExceptT.run_bind, StateT.run_bind]
  obtain ⟨result, left⟩ := StateT.run (ExceptT.run work) registry
  cases result <;> rfl

end RegistryWork

namespace RuleModule

/-- The steps of a registration: a look at the modules, then the one list and then the other. -/
def enter (owner : RuleModule) (rule? : Option Rule) : RegistryWork RegistryAnswer := do
  if let some rule := rule? then
    if let some known := KeyedList.get? (← get).owners rule.name then
      if known ≠ owner then
        throw (.conflict rule.name known.name owner.name)
    modify fun registry => { registry with rules := KeyedList.put registry.rules rule.name rule }
    modify fun registry => { registry with owners := KeyedList.put registry.owners rule.name owner }
  return .registered rule? (← get).names

theorem outcome_enter (owner : RuleModule) (rule? : Option Rule) (registry : Registry) :
    (owner.enter rule?).outcome registry = registry.answer (.register owner rule?) := by
  cases rule? with
  | none => rfl
  | some rule =>
      simp only [enter, RegistryWork.outcome_bind, RegistryWork.outcome_get, Registry.answer,
        Registry.register]
      cases held : KeyedList.get? registry.owners rule.name with
      | none => rfl
      | some known =>
          by_cases same : known = owner
          · simp only [same, ne_eq, not_true, if_false, if_true]
            rfl
          · simp only [same, ne_eq, not_false_iff, if_false, if_true]
            rfl

/-- Does the module have a rule of this name? -/
def claims (ruleOf : RuleModule → Option Rule) (name : String) (owner : RuleModule) : Bool :=
  (ruleOf owner).any fun rule => rule.name = name

end RuleModule

/-- One call for each module, with the rule that it has. -/
def RegistryCall.registrations (ruleOf : RuleModule → Option Rule) (modules : List RuleModule) :
    List RegistryCall :=
  modules.map fun owner => .register owner (ruleOf owner)

namespace Registry

open RegistryCall (registrations)

variable {ruleOf : RuleModule → Option Rule} {registry : Registry} {owner : RuleModule}

/-- The two lists have the same names, each once, and under each name the one has the rule of the
module that the other has. -/
structure IsConsistent (registry : Registry) (ruleOf : RuleModule → Option Rule) : Prop where
  sameNames : KeyedList.names registry.rules = KeyedList.names registry.owners
  distinct : (KeyedList.names registry.owners).Nodup
  ruleOfOwner : ∀ name owner, KeyedList.get? registry.owners name = some owner →
    ∃ rule, ruleOf owner = some rule ∧ rule.name = name ∧
      KeyedList.get? registry.rules name = some rule

theorem empty_isConsistent : empty.IsConsistent ruleOf where
  sameNames := rfl
  distinct := List.nodup_nil
  ruleOfOwner := fun name owner held => by cases held

theorem IsConsistent.next (consistent : registry.IsConsistent ruleOf) (owner : RuleModule) :
    (registry.next (.register owner (ruleOf owner))).IsConsistent ruleOf := by
  cases stated : ruleOf owner with
  | none => exact consistent
  | some rule =>
      obtain ⟨next, entered, rules, owners, -⟩ | ⟨known, refused, -⟩ :=
        register_cases registry owner rule
      · simp only [Registry.next, answer, entered]
        constructor
        case sameNames =>
          rw [rules, owners, KeyedList.names_put, KeyedList.names_put, consistent.sameNames]
        case distinct =>
          rw [owners]
          exact KeyedList.nodup_names_put consistent.distinct rule.name owner
        case ruleOfOwner =>
          intro name known held
          rw [owners] at held
          rw [rules]
          by_cases same : name = rule.name
          · subst same
            rw [KeyedList.get?_put_same] at held
            obtain rfl := Option.some.inj held
            exact ⟨rule, stated, rfl, KeyedList.get?_put_same registry.rules rule.name rule⟩
          · rw [KeyedList.get?_put_other _ _ same] at held ⊢
            exact consistent.ruleOfOwner name known held
      · simpa only [Registry.next, answer, refused] using consistent

theorem IsConsistent.after (consistent : registry.IsConsistent ruleOf)
    (modules : List RuleModule) :
    (registry.after (registrations ruleOf modules)).IsConsistent ruleOf := by
  induction modules generalizing registry with
  | nil => exact consistent
  | cons owner rest ih => exact ih (consistent.next owner)

/-- The first module that claims a name has it from then on. -/
theorem owners_registrations (registry : Registry) (modules : List RuleModule) (name : String) :
    KeyedList.get? (registry.after (registrations ruleOf modules)).owners name =
      (KeyedList.get? registry.owners name).or (modules.find? (RuleModule.claims ruleOf name)) := by
  induction modules generalizing registry with
  | nil => exact (Option.or_none ..).symm
  | cons owner rest ih =>
      have step : KeyedList.get? (registry.next (.register owner (ruleOf owner))).owners name =
          (KeyedList.get? registry.owners name).or
            (if RuleModule.claims ruleOf name owner then some owner else none) := by
        cases stated : ruleOf owner with
        | none => simp [RuleModule.claims, stated, Registry.next, answer, register]
        | some rule =>
            rw [owners_register]
            simp [RuleModule.claims, stated, KeyedList.get?]
      have later := ih (registry.next (.register owner (ruleOf owner)))
      rw [step, Option.or_assoc] at later
      rw [List.find?_cons]
      refine later.trans (congrArg _ ?_)
      split <;> simp_all

/-- A registration fails for no other reason than a rule whose name another module has. -/
theorem register_refused_iff {rule? : Option Rule} :
    (∃ error, (registry.answer (.register owner rule?)).1 = .error error) ↔
      ∃ rule known, rule? = some rule ∧ KeyedList.get? registry.owners rule.name = some known ∧
        known ≠ owner := by
  cases rule? with
  | none => simp [answer, register]
  | some rule =>
      obtain ⟨next, entered, -, -, same⟩ | ⟨known, refused, held⟩ :=
        register_cases registry owner rule
      · simp only [answer, entered]
        refine iff_of_false (fun failed => by cases failed.choose_spec) ?_
        intro claimed
        obtain ⟨stated, known, isStated, held, different⟩ := claimed
        obtain rfl := Option.some.inj isStated
        exact different (same known held)
      · have different : known ≠ owner := by
          intro same
          simp [register, held, same] at refused
        simp only [answer, refused]
        exact iff_of_true ⟨_, rfl⟩ ⟨rule, known, rfl, held, different⟩

/-- A refused registration leaves both lists as they are. -/
theorem refused_keeps {rule? : Option Rule} {error : RegistryError} {left : Registry}
    (refused : (owner.enter rule?).outcome registry = (.error error, left)) : left = registry := by
  rw [RuleModule.outcome_enter] at refused
  simp only [answer] at refused
  split at refused
  · cases refused
  · exact (Prod.mk.inj refused).2.symm

/-- A module that has the name of its rule already, or has no rule, changes nothing. -/
theorem IsConsistent.answer_owned (consistent : registry.IsConsistent ruleOf)
    (owned : ∀ rule, ruleOf owner = some rule →
      KeyedList.get? registry.owners rule.name = some owner) :
    registry.answer (.register owner (ruleOf owner)) =
      (.ok (.registered (ruleOf owner) registry.names), registry) := by
  cases stated : ruleOf owner with
  | none => rfl
  | some rule =>
      have held := owned rule stated
      obtain ⟨known, knownStated, -, found⟩ := consistent.ruleOfOwner rule.name owner held
      obtain rfl : rule = known := Option.some.inj (stated.symm.trans knownStated)
      simp only [answer, register, held, if_true, KeyedList.put_of_get? held,
        KeyedList.put_of_get? found]

/-- Behind a successful registration the module has the name of its rule. -/
theorem owned_of_answer {answered : RegistryAnswer} {next : Registry}
    (succeeded : registry.answer (.register owner (ruleOf owner)) = (.ok answered, next))
    {rule : Rule} (stated : ruleOf owner = some rule) :
    KeyedList.get? next.owners rule.name = some owner := by
  obtain ⟨entered, success, -, owners, -⟩ | ⟨known, refused, -⟩ :=
    register_cases registry owner rule
  · simp only [answer, stated, success] at succeeded
    obtain rfl := (Prod.mk.inj succeeded).2
    rw [owners, KeyedList.get?_put_same]
  · simp only [answer, stated, refused] at succeeded
    cases (Prod.mk.inj succeeded).1

/-- What the registration of a module does to a register. -/
structure Handles (registry : Registry) (ruleOf : RuleModule → Option Rule) (owner : RuleModule) :
    Prop where
  steps : (owner.enter (ruleOf owner)).outcome registry =
    registry.answer (.register owner (ruleOf owner))
  refused : (∃ error, (registry.answer (.register owner (ruleOf owner))).1 = .error error) ↔
    ∃ rule known, ruleOf owner = some rule ∧
      KeyedList.get? registry.owners rule.name = some known ∧ known ≠ owner
  atomic : ∀ error left, (owner.enter (ruleOf owner)).outcome registry = (.error error, left) →
    left = registry
  repeated : ∀ answered next,
    registry.answer (.register owner (ruleOf owner)) = (.ok answered, next) → ∀ later,
      (next.after (registrations ruleOf later)).answer (.register owner (ruleOf owner)) =
        (.ok (.registered (ruleOf owner) (next.after (registrations ruleOf later)).names),
          next.after (registrations ruleOf later))

theorem IsConsistent.handles (consistent : registry.IsConsistent ruleOf) (owner : RuleModule) :
    registry.Handles ruleOf owner where
  steps := owner.outcome_enter (ruleOf owner) registry
  refused := register_refused_iff
  atomic := fun _ _ => refused_keeps
  repeated := by
    intro answered next succeeded later
    have nextIs : registry.next (.register owner (ruleOf owner)) = next := by
      rw [Registry.next, succeeded]
    have nextConsistent : next.IsConsistent ruleOf := nextIs ▸ consistent.next owner
    refine (nextConsistent.after later).answer_owned fun rule stated => ?_
    rw [owners_registrations, owned_of_answer succeeded stated, Option.some_or]

end Registry

/-- Whatever modules are registered, in whatever order and however often: the two lists of the
register keep step, each name belongs to the first module that claims it, and one more registration
either is refused without a trace or need not be repeated. -/
theorem registrations_keep_step (ruleOf : RuleModule → Option Rule) (modules : List RuleModule) :
    let registry := Registry.empty.after (RegistryCall.registrations ruleOf modules)
    registry.IsConsistent ruleOf ∧
      (∀ name, KeyedList.get? registry.owners name =
        modules.find? (RuleModule.claims ruleOf name)) ∧
      ∀ owner, registry.Handles ruleOf owner := by
  intro registry
  have consistent : registry.IsConsistent ruleOf := Registry.empty_isConsistent.after modules
  refine ⟨consistent, fun name => ?_, consistent.handles⟩
  exact Registry.owners_registrations Registry.empty modules name

/-- Two modules with one rule between them, beside modules without any. -/
def sharedRule : RuleModule → Option Rule
  | .outside "first" => some contrastRule
  | .outside "second" => some contrastRule
  | _ => none

/-- The second module is refused, and the first one may register its rule again. -/
theorem sharedRule_keeps_step :
    let first := RuleModule.outside "first"
    let second := RuleModule.outside "second"
    let registry := Registry.empty.after
      (RegistryCall.registrations sharedRule [.outside "bare", first, second])
    KeyedList.get? registry.owners "contrast" = some first ∧
      (∃ error, (second.enter (sharedRule second)).outcome registry = (.error error, registry)) ∧
      ∃ answered,
        registry.answer (.register first (sharedRule first)) = (.ok answered, registry) := by
  intro first second registry
  obtain ⟨-, owners, handles⟩ :=
    registrations_keep_step sharedRule [.outside "bare", first, second]
  have held : KeyedList.get? registry.owners "contrast" = some first := owners "contrast"
  refine ⟨held, ?_, ?_⟩
  · obtain ⟨error, failed⟩ :=
      (handles second).refused.mpr ⟨contrastRule, first, rfl, held, by decide⟩
    have refused : (second.enter (sharedRule second)).outcome registry = (.error error, _) :=
      (handles second).steps.trans (Prod.ext failed rfl)
    exact ⟨error, refused.trans (congrArg _ ((handles second).atomic error _ refused))⟩
  · obtain ⟨-, -, earlier⟩ := registrations_keep_step sharedRule [.outside "bare"]
    exact ⟨_, (earlier first).repeated _ _ rfl [second]⟩

end AssetAudit
