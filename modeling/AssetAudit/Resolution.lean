import AssetAudit.Binding.Table
import AssetAudit.Config
import AssetAudit.FileName
import AssetAudit.Literal.Found
import AssetAudit.Placeholder
import AssetAudit.Text.Sorted

namespace AssetAudit

/-! Templated names and the names that they can become.  A placeholder takes each value that is
bound to its expression.  The work goes in passes over the pending names: each pass sets the names
without placeholders aside and makes one more substitution in the others, and the configured
number of substitutions bounds the passes. -/

/-- A templated name where a source uses it. -/
structure TemplateUse where
  template : Template
  file : String
  line : Nat
deriving DecidableEq

def TemplateUse.ofLiteral? (file : String) (literal : Literal) : Option TemplateUse :=
  (Template.ofName? literal.text).map fun template => ⟨template, file, literal.line⟩

def TemplateUse.ofSource (source : SourceFile) : List TemplateUse :=
  (Literal.ofSource source).filterMap (ofLiteral? source.path)

/-- A name with the values that were put into it, in the order of the substitutions. -/
structure Derivation where
  name : String
  values : List String
deriving DecidableEq

/-- Does the name still have a placeholder? -/
def Derivation.isOpen (derivation : Derivation) : Bool := hasPlaceholder derivation.name

/-- The identifiers that may name the values of a placeholder: the whole expression, its last
dotted part, its first one. -/
def lookupKeys (expression : String) : List String :=
  [expression, String.ofList (Text.afterLast '.' expression.toList),
    String.ofList (Text.beforeFirst '.' expression.toList)]

/-- The values of the first key of an expression that has any. -/
def BindingTable.valuesOf? (table : BindingTable) (expression : String) : Option (List String) :=
  ((lookupKeys expression).map table.lookup).find? fun values => !values.isEmpty

namespace Template

/-- The values of a placeholder: the bound ones, or else the inferred ones. -/
def values (table : BindingTable) (config : Config) (template : Template) : List String :=
  (table.valuesOf? template.placeholder).getD
    (config.inferValues [template.lead, template.placeholder])

/-- The names that one substitution makes of a template that came up after others. -/
def substitute (table : BindingTable) (config : Config) (before : List String)
    (template : Template) : List Derivation :=
  (template.values table config).map fun value => ⟨template.render value, before ++ [value]⟩

/-- One more substitution in an open name.  A malformed placeholder ends the derivation. -/
def advance (table : BindingTable) (config : Config) (derivation : Derivation) :
    List Derivation :=
  match ofName? derivation.name with
  | none => []
  | some template => template.substitute table config derivation.values

/-- The names without placeholders that the pending ones become in at most this many passes.
What is open after the last pass is dropped. -/
def resolvePending (table : BindingTable) (config : Config) :
    Nat → List Derivation → List Derivation
  | 0, pending => pending.filter (!·.isOpen)
  | passes + 1, pending =>
      let (templated, complete) := pending.partition (·.isOpen)
      if templated.isEmpty then complete
      else complete ++ resolvePending table config passes (templated.flatMap (advance table config))

def allDerivations (table : BindingTable) (config : Config) (template : Template) :
    List Derivation :=
  resolvePending table config (config.maxExpansionDepth - 1) (template.substitute table config [])

/-- The names that a template can become, in ascending order. -/
def names (table : BindingTable) (config : Config) (template : Template) : List String :=
  Text.sortedSet ((template.allDerivations table config).map (·.name))

/-- The values in the derivations of one name, in ascending order. -/
def valuesOf (derivations : List Derivation) (name : String) : List String :=
  Text.sortedSet ((derivations.filter (·.name = name)).flatMap (·.values))

/-- Each name that a template can become, with the values in all its derivations. -/
def resolve (table : BindingTable) (config : Config) (template : Template) :
    List Derivation :=
  let derivations := template.allDerivations table config
  (Text.sortedSet (derivations.map (·.name))).map fun name => ⟨name, valuesOf derivations name⟩

end Template

/-- The forms in which a lookup may write a name: without its extension; for a name with a
directory its last part, with and without a role suffix; for one without a directory each of its
values in one of the common directories. -/
def expandName (config : Config) (name : String) (values : List String) : List String :=
  let forms := [name, FileName.withoutImageExtension name]
  if name.toList.contains '/' then
    let last := FileName.last name
    if last.isEmpty then forms
    else
      forms ++ [last, FileName.withoutImageExtension last] ++
        config.roleSuffixes.map (last ++ ·)
  else
    forms ++ (values.filter fun value => !value.isEmpty && !hasPlaceholder value).flatMap
      fun value => config.assetDirectories.map fun directory => directory ++ "/" ++ value

/-- All names under which the images of a template may be looked up. -/
def Template.candidates (table : BindingTable) (config : Config) (template : Template) :
    List String :=
  (template.allDerivations table config).flatMap fun derivation =>
    expandName config derivation.name derivation.values

end AssetAudit
