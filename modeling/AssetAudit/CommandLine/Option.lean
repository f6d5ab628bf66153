import AssetAudit.Text.Integer
import AssetAudit.Text.Quoted

namespace AssetAudit.CommandLine

/-! The options of a command, and what is wrong with a command line. -/

/-- What an option does to the settings of its command. -/
inductive Effect (σ : Type) where
  /-- Shows the help and ends the run. -/
  | help
  | switch (turn : σ → σ)
  /-- Takes a text, which help calls by the placeholder, or a value that was dropped. -/
  | text (placeholder : String) (give : Option String → σ → σ)
  /-- Takes a whole number, or a value that was dropped. -/
  | number (placeholder : String) (give : Option Int → σ → σ)

/-- An option is spelled as a dash with one letter, or as two dashes with a word. -/
structure OptionForm (σ : Type) where
  spellings : List String
  effect : Effect σ
  summary : String

/-- Why a command line is refused. -/
inductive UsageError where
  /-- An abbreviation fits several options. -/
  | ambiguous (text : String) (candidates : List String)
  /-- An option lacks its value. -/
  | missingValue (option : String)
  /-- An option takes no value but is given one. -/
  | unwantedValue (option value : String)
  | invalidNumber (option value : String)
  | unknownCommand (text : String) (known : List String)
  | missingRoot
  | unrecognized (texts : List String)
deriving DecidableEq

def UsageError.message : UsageError → String
  | ambiguous text candidates =>
      "ambiguous option: " ++ text ++ " could match " ++ String.intercalate ", " candidates
  | missingValue option => "argument " ++ option ++ ": expected one argument"
  | unwantedValue option value =>
      "argument " ++ option ++ ": ignored explicit argument " ++ Text.quoted value
  | invalidNumber option value =>
      "argument " ++ option ++ ": invalid int value: " ++ Text.quoted value
  | unknownCommand text known =>
      "argument command: invalid choice: " ++ Text.quoted text ++ " (choose from " ++
        String.intercalate ", " (known.map Text.quoted) ++ ")"
  | missingRoot => "the following arguments are required: root"
  | unrecognized texts => "unrecognized arguments: " ++ String.intercalate " " texts

/-- What ends the reading of a command line early. -/
inductive Stop where
  /-- The user asked for help. -/
  | help
  | refused (error : UsageError)
deriving DecidableEq

namespace OptionForm

variable {σ : Type}

/-- How messages name the option. -/
def label (form : OptionForm σ) : String := String.intercalate "/" form.spellings

/-- The placeholder of the value that the option takes. -/
def placeholder? (form : OptionForm σ) : Option String :=
  match form.effect with
  | .help | .switch _ => none
  | .text placeholder _ | .number placeholder _ => some placeholder

def takesValue (form : OptionForm σ) : Bool := form.placeholder?.isSome

/-- What the option does without a value. -/
def turn (form : OptionForm σ) (settings : σ) : Except Stop σ :=
  match form.effect with
  | .help => .error .help
  | .switch turn => .ok (turn settings)
  | .text .. | .number .. => .error (.refused (.missingValue form.label))

/-- What the option does with a value.  A lone double dash is dropped, so that the option has a
value but there is nothing in it. -/
def give (form : OptionForm σ) (value : String) (settings : σ) : Except Stop σ :=
  match form.effect with
  | .text _ give => .ok (give (if value = "--" then none else some value) settings)
  | .number _ give =>
      if value = "--" then .ok (give none settings)
      else
        match Text.integer? value.toList with
        | some number => .ok (give (some number) settings)
        | none => .error (.refused (.invalidNumber form.label value))
  | .help | .switch _ => .error (.refused (.unwantedValue form.label value))

/-- The option with exactly this spelling. -/
def spelled? (forms : List (OptionForm σ)) (spelling : List Char) : Option (OptionForm σ) :=
  forms.find? fun form => form.spellings.any fun known => known.toList = spelling

/-- The options with a spelling that starts like this, each with that spelling. -/
def startingWith (forms : List (OptionForm σ)) (start : List Char) :
    List (OptionForm σ × String) :=
  forms.flatMap fun form =>
    (form.spellings.filter fun known => start.isPrefixOf known.toList).map fun known =>
      (form, known)

end OptionForm

end AssetAudit.CommandLine
