import AssetAudit.CommandLine.Option
import AssetAudit.Text.Search
import AssetAudit.Text.Word

namespace AssetAudit.CommandLine

/-! Arguments, told apart into options and operands.  Long options may be abbreviated, short ones
share one dash, and everything behind a lone double dash is an operand. -/

variable {σ : Type}

/-- An argument of a command with certain options. -/
inductive Argument (σ : Type) where
  | operand (text : String)
  /-- The lone double dash. -/
  | separator
  /-- An option with the value in the same argument.  What stands behind the one letter of a short
  option counts as its value, too. -/
  | option (form : OptionForm σ) (isShort : Bool) (value? : Option (List Char)) (text : String)
  /-- What looks like an option but is none of this command. -/
  | unknown (text : String)

namespace Argument

/-- The argument as it was given. -/
def text : Argument σ → String
  | operand text => text
  | separator => "--"
  | option _ _ _ text => text
  | unknown text => text

def isDigit (c : Char) : Bool := (Text.digitValue? c).isSome

/-- Digits, or a point with digits behind it and perhaps before it. -/
def isNumeral (text : List Char) : Bool :=
  match text.dropWhile isDigit with
  | [] => !text.isEmpty
  | '.' :: fraction => !fraction.isEmpty && fraction.all isDigit
  | _ => false

/-- A text without the line feed at its end. -/
def withoutLineEnd (text : List Char) : List Char :=
  if text.getLast? = some '\n' then text.dropLast else text

/-- A negative number is an operand, as no option looks like one. -/
def isNegativeNumber (text : List Char) : Bool :=
  match text with
  | '-' :: rest => isNumeral (withoutLineEnd rest)
  | _ => false

/-- Two dashes in front mark a long option. -/
def isLong (text : List Char) : Bool := ['-', '-'].isPrefixOf text

/-- The value behind the first equals sign, if there is one. -/
def valueBehindSign? (text : List Char) : Option (List Char) :=
  match text.drop (Text.beforeFirst '=' text).length with
  | [] => none
  | _ :: value => some value

/-- The options that an argument may mean, each with its spelling, and the value in it. -/
def meanings (forms : List (OptionForm σ)) (text : List Char) :
    List (OptionForm σ × String) × Option (List Char) :=
  if isLong text then
    (OptionForm.startingWith forms (Text.beforeFirst '=' text), valueBehindSign? text)
  else
    let start := text.take 2
    (((OptionForm.spelled? forms start).map fun form => (form, String.ofList start)).toList,
      some (text.drop 2))

/-- Something that starts with a dash, has a second character and is spelled like no option. -/
def ofOther (forms : List (OptionForm σ)) (text : String) : Except UsageError (Argument σ) :=
  match meanings forms text.toList with
  | ([(form, _)], value?) => .ok (.option form (!isLong text.toList) value? text)
  | ([], _) =>
      if isNegativeNumber text.toList || text.toList.contains ' ' then .ok (.operand text)
      else .ok (.unknown text)
  | (several, _) => .error (.ambiguous text (several.map fun (_, known) => known))

/-- What an argument other than the lone double dash is. -/
def ofText (forms : List (OptionForm σ)) (text : String) : Except UsageError (Argument σ) :=
  match text.toList, OptionForm.spelled? forms (Text.beforeFirst '=' text.toList) with
  | '-' :: _, some form =>
      .ok (.option form (!isLong text.toList) (valueBehindSign? text.toList) text)
  | '-' :: _ :: _, none => ofOther forms text
  | _, _ => .ok (.operand text)

/-- Tells all arguments apart.  The first ambiguous one is an error. -/
def ofTexts (forms : List (OptionForm σ)) : List String → Except UsageError (List (Argument σ))
  | [] => .ok []
  | text :: rest =>
      if text = "--" then .ok (.separator :: rest.map .operand)
      else do return (← ofText forms text) :: (← ofTexts forms rest)

end Argument

end AssetAudit.CommandLine
