import AssetAudit.KeyedList
import AssetAudit.Text.Blank
import AssetAudit.Text.Lines
import AssetAudit.Text.Search
import AssetAudit.Text.Word

namespace AssetAudit.SettingsFile

/-! Files with one setting per line, such as `NAME=value`.  A value may stand in quotes, and
behind one without quotes there may be a comment. -/

inductive SettingLine where
  /-- An empty line or a comment. -/
  | blank
  | setting (name value : List Char)
  | malformed
deriving DecidableEq

/-- A text without the word `export` and the white space behind it. -/
def afterExport? (line : List Char) : Option (List Char) :=
  let word := "export".toList
  let rest := line.drop word.length
  if word.isPrefixOf line && rest.head?.any Text.isBlank then some (rest.dropWhile Text.isBlank)
  else none

/-- The two sides of the first equals sign, if the left one is an ASCII identifier. -/
def sides? : List Char → Option (List Char × List Char)
  | [] => none
  | c :: rest =>
      if Text.isNameStart c then
        match (rest.dropWhile Text.isNamePart).dropWhile Text.isBlank with
        | '=' :: right => some (c :: rest.takeWhile Text.isNamePart, right)
        | _ => none
      else none

/-- The two sides of a setting.  The word `export` in front counts as a name only where nothing
else does. -/
def assignment? (line : List Char) : Option (List Char × List Char) :=
  ((afterExport? line).bind sides?).orElse fun _ => sides? line

/-- Does the same quote stand at both ends? -/
def isQuoted (value : List Char) : Bool :=
  2 ≤ value.length && value.head? = value.getLast? &&
    (value.head? = some '"' || value.head? = some '\'')

/-- A value without its quotes, or without the comment behind it. -/
def unquote (value : List Char) : List Char :=
  if isQuoted value then (value.drop 1).dropLast
  else Text.dropEndWhile Text.isBlank (Text.beforePiece [' ', '#'] value)

def SettingLine.ofStripped (line : List Char) : SettingLine :=
  if line.isEmpty || line.head? = some '#' then blank
  else
    match assignment? line with
    | some (name, right) => setting name (unquote (Text.strip right))
    | none => malformed

def SettingLine.ofText (line : List Char) : SettingLine := ofStripped (Text.strip line)

def SettingLine.entry? : SettingLine → Option (String × String)
  | setting name value => some (String.ofList name, String.ofList value)
  | _ => none

def settingLines (text : List Char) : List SettingLine :=
  (Text.splitLines text).map SettingLine.ofText

/-- The settings in the order in which their names first appear; the last value of a name
counts. -/
def settings (text : List Char) : List (String × String) :=
  KeyedList.ofList ((settingLines text).filterMap SettingLine.entry?)

/-- The numbers of the malformed lines, where the first of them has the number `number`. -/
def malformedFrom (number : Nat) : List SettingLine → List Nat
  | [] => []
  | line :: rest =>
      if line = .malformed then number :: malformedFrom (number + 1) rest
      else malformedFrom (number + 1) rest

def malformedLines (text : List Char) : List Nat := malformedFrom 1 (settingLines text)

end AssetAudit.SettingsFile
