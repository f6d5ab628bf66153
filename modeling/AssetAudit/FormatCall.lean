import AssetAudit.Pattern.Search
import AssetAudit.Placeholder

namespace AssetAudit.FormatCall

/-! Format strings with their arguments, rewritten as templated names. -/

def opensBracket (c : Char) : Bool := c == '(' || c == '[' || c == '{'

def closesBracket (c : Char) : Bool := c == ')' || c == ']' || c == '}'

/-- The level of nesting behind a character.  Brackets of all three kinds count alike. -/
def levelAfter (c : Char) (level : Int) : Int :=
  if opensBracket c then level + 1 else if closesBracket c then level - 1 else level

/-- The arguments in the rest of a list, where the current one so far is `piece`, in reverse
order.  Nothing but white space behind the last comma is no argument. -/
def splitArgumentsFrom (level : Int) (piece : List Char) : List Char → List (List Char)
  | [] =>
      let last := Text.strip piece.reverse
      if last.isEmpty then [] else [last]
  | c :: rest =>
      let level := levelAfter c level
      if c = ',' ∧ level = 0 then
        Text.strip piece.reverse :: splitArgumentsFrom level [] rest
      else
        splitArgumentsFrom level (c :: piece) rest

/-- The arguments of a call, cut at the commas outside all brackets. -/
def splitArguments (arguments : String) : List String :=
  (splitArgumentsFrom 0 [] arguments.toList).map String.ofList

/-- The conversions that stand for an argument. -/
def specifier : Pattern :=
  .sequence ["%", .choice [
    "@",
    .sequence [.optional "l", .optional "l", .char fun c => "dius".toList.contains c],
    "zd"]]

/-- Texts with an argument as a placeholder between each two of them. -/
def interleave : List (List Char) → List String → List Char
  | [], _ => []
  | [text], _ => text
  | text :: _, [] => text
  | text :: texts, argument :: arguments =>
      text ++ "\\(".toList ++ argument.toList ++ [')'] ++ interleave texts arguments

/-- The templated name of a format string: its conversions become placeholders of the arguments
in order.  There is none without a conversion or with too few arguments. -/
def template? (format arguments : String) : Option String :=
  let texts := specifier.cut format.toList
  let arguments := splitArguments arguments
  if texts.length ≤ 1 || texts.length - 1 > arguments.length then none
  else some (String.ofList (interleave texts arguments))

end AssetAudit.FormatCall
