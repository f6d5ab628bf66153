import AssetAudit.Compliance.Catalog
import AssetAudit.Compliance.ColorProfile
import AssetAudit.Compliance.DesignQuality
import AssetAudit.Compliance.Interlacing
import AssetAudit.Compliance.Score
import AssetAudit.Text.Quoted

namespace AssetAudit

/-! The register of compliance rules.  Each rule is registered by a module, and no two modules
may register rules of one name. -/

/-- A module that may register a rule.  A built-in module is never the same as a module from
outside, whatever names they have. -/
inductive RuleModule where
  | builtIn (family : Family)
  | outside (name : String)
deriving DecidableEq

namespace RuleModule

/-- The name of the package that holds the built-in modules. -/
def package : String := "asset_checker.rules."

def name : RuleModule → String
  | builtIn .interlacing => package ++ "interlacing"
  | builtIn .colorProfile => package ++ "color_profile"
  | builtIn .catalog => package ++ "catalog"
  | builtIn .designQuality => package ++ "design_quality"
  | outside name => name

end RuleModule

/-- The rule of each family. -/
def Rule.builtIn : Family → Rule
  | .interlacing => Interlacing.rule
  | .colorProfile => ColorProfile.rule
  | .catalog => Catalog.rule
  | .designQuality => DesignQuality.rule

/-- What a rule is about, in full. -/
def Rule.documentation : Family → String
  | .interlacing => Interlacing.documentation
  | .colorProfile => ColorProfile.documentation
  | .catalog => Catalog.documentation
  | .designQuality => DesignQuality.documentation

/-- What a rule is about, in one line. -/
def Rule.headline (family : Family) : String :=
  String.ofList (Text.beforeFirst '\n' (Rule.documentation family).toList)

/-- The families in the order of the names of their rules. -/
def Family.byRuleName : List Family := [.catalog, .colorProfile, .designQuality, .interlacing]

inductive RegistryError where
  /-- The rule is registered by another module already. -/
  | conflict (rule owner claimant : String)
  | unknownRule (rule : String) (known : List String)
deriving DecidableEq

def RegistryError.message : RegistryError → String
  | conflict rule owner claimant =>
      "Rule " ++ Text.quoted rule ++ " defined by both " ++ owner ++ " and " ++ claimant
  | unknownRule rule known =>
      "Unknown rule: " ++ rule ++ ". Available: " ++ String.intercalate ", " known

/-- The rules and, apart from them, the modules that registered them, in the order in which
their names were first registered. -/
structure Registry where
  rules : List (String × Rule)
  owners : List (String × RuleModule)

namespace Registry

def empty : Registry := ⟨[], []⟩

def names (registry : Registry) : List String := KeyedList.names registry.rules

/-- Registers the rule of a module, if it has one. -/
def register (registry : Registry) (owner : RuleModule) (rule? : Option Rule) :
    Except RegistryError Registry :=
  match rule? with
  | none => .ok registry
  | some rule =>
      let entered : Registry :=
        ⟨KeyedList.put registry.rules rule.name rule, KeyedList.put registry.owners rule.name owner⟩
      match KeyedList.get? registry.owners rule.name with
      | none => .ok entered
      | some known =>
          if known = owner then .ok entered
          else .error (.conflict rule.name known.name owner.name)

/-- Registers the built-in rules, unless any rule is registered. -/
def discover (registry : Registry) : Except RegistryError Registry :=
  if registry.rules.isEmpty then
    Family.byRuleName.foldlM
      (fun registry family => registry.register (.builtIn family) (some (.builtIn family)))
      registry
  else .ok registry

/-- The rules of a register in the order of their names. -/
def sortedRules (registry : Registry) : List Rule :=
  (Text.sorted registry.names).filterMap fun name => KeyedList.get? registry.rules name

/-- The rule of this name in a discovered register. -/
def get (registry : Registry) (name : String) : Except RegistryError Rule :=
  match KeyedList.get? registry.rules name with
  | some rule => .ok rule
  | none => .error (.unknownRule name (Text.sorted registry.names))

/-- The module that registered the rule of this name. -/
def ownerOf (registry : Registry) (name : String) : Except RegistryError RuleModule := do
  let _ ← registry.get name
  match KeyedList.get? registry.owners name with
  | some owner => return owner
  | none => throw (.unknownRule name (Text.sorted registry.names))

end Registry

/-- What can be asked of a register. -/
inductive RegistryCall where
  /-- Register the rule of a module. -/
  | register (owner : RuleModule) (rule? : Option Rule)
  /-- The names of all rules in the order of registration. -/
  | discover
  /-- All rules in the order of their names. -/
  | allRules
  | get (name : String)
  | ownerOf (name : String)

inductive RegistryAnswer where
  | registered (rule? : Option Rule) (names : List String)
  | names (names : List String)
  | rules (rules : List Rule)
  | rule (rule : Rule)
  | owner (owner : RuleModule)

/-- Answers a call, beside the register behind it.  Every call but a registration first looks
for the built-in rules; a call that fails changes nothing else. -/
def Registry.answer (registry : Registry) (call : RegistryCall) :
    Except RegistryError RegistryAnswer × Registry :=
  match call with
  | .register owner rule? =>
      match registry.register owner rule? with
      | .ok next => (.ok (.registered rule? next.names), next)
      | .error error => (.error error, registry)
  | .discover => discovered fun next => .ok (.names next.names)
  | .allRules => discovered fun next => .ok (.rules next.sortedRules)
  | .get name => discovered fun next => (next.get name).map .rule
  | .ownerOf name => discovered fun next => (next.ownerOf name).map .owner
where
  discovered (ask : Registry → Except RegistryError RegistryAnswer) :
      Except RegistryError RegistryAnswer × Registry :=
    match registry.discover with
    | .ok next => (ask next, next)
    | .error error => (.error error, registry)

/-- The built-in rules in the order of their names. -/
def Rule.standard : List Rule := Family.byRuleName.map Rule.builtIn

end AssetAudit
