import AssetAudit.Text.Blank

namespace AssetAudit

/-! Placeholders in templated names.  A placeholder is an expression in balanced parentheses
behind a backslash. -/

/-- Does the text open a placeholder anywhere? -/
def opensPlaceholder : List Char → Bool
  | '\\' :: '(' :: _ => true
  | _ :: rest => opensPlaceholder rest
  | [] => false

def hasPlaceholder (name : String) : Bool := opensPlaceholder name.toList

/-- A templated name: what stands around its first placeholder, and the expression in it. -/
structure Template where
  lead : String
  placeholder : String
  trail : String
deriving DecidableEq

/-- The name with a value in the place of the placeholder. -/
def Template.render (template : Template) (value : String) : String :=
  template.lead ++ value ++ template.trail

namespace Placeholder

/-- Cuts a text at its first placeholder opener. -/
def cutAtOpener? : List Char → Option (List Char × List Char)
  | '\\' :: '(' :: rest => some ([], rest)
  | c :: rest => (cutAtOpener? rest).map fun (lead, inside) => (c :: lead, inside)
  | [] => none

/-- Cuts a text in front of the parenthesis that closes `depth` further open ones. -/
def cutAtClosing? : Nat → List Char → Option (List Char × List Char)
  | _, [] => none
  | 0, ')' :: rest => some ([], rest)
  | depth + 1, ')' :: rest =>
      (cutAtClosing? depth rest).map fun (inside, trail) => (')' :: inside, trail)
  | depth, '(' :: rest =>
      (cutAtClosing? (depth + 1) rest).map fun (inside, trail) => ('(' :: inside, trail)
  | depth, c :: rest =>
      (cutAtClosing? depth rest).map fun (inside, trail) => (c :: inside, trail)

end Placeholder

/-- The parts of a name around its first placeholder.  There are none when no placeholder is
opened, or when the first one is not closed or blank. -/
def Template.ofName? (name : String) : Option Template :=
  match Placeholder.cutAtOpener? name.toList with
  | none => none
  | some (lead, inside) =>
      match Placeholder.cutAtClosing? 0 inside with
      | none => none
      | some (raw, trail) =>
          let expression := Text.strip raw
          if expression.isEmpty then none
          else
            some ⟨String.ofList lead, String.ofList expression, String.ofList trail⟩

end AssetAudit
