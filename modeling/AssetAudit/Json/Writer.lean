import AssetAudit.Json.Value
import AssetAudit.Text.Integer
import AssetAudit.Text.Quoted

namespace AssetAudit.Json

/-! Writing JSON in ASCII, either on one line or with two blanks of indentation per level. -/

/-- One UTF-16 unit as an escape. -/
def unitEscape (unit : Nat) : List Char := '\\' :: 'u' :: Text.hexDigits 4 unit

/-- Characters beyond U+FFFF are written as a surrogate pair. -/
def escapeChar (c : Char) : List Char :=
  if c = '"' then ['\\', '"']
  else if c = '\\' then ['\\', '\\']
  else if c = '\n' then ['\\', 'n']
  else if c = '\r' then ['\\', 'r']
  else if c = '\t' then ['\\', 't']
  else if c = '\x08' then ['\\', 'b']
  else if c = '\x0c' then ['\\', 'f']
  else if 0x20 ≤ c.toNat && c.toNat < 0x7F then [c]
  else if c.toNat < 0x10000 then unitEscape c.toNat
  else
    let above := c.toNat - 0x10000
    unitEscape (0xD800 + above / 0x400) ++ unitEscape (0xDC00 + above % 0x400)

def stringText (text : String) : String :=
  String.ofList ('"' :: text.toList.flatMap escapeChar ++ ['"'])

/-- How the parts of a list or an object are set apart: what follows an opening bracket, a comma
and a colon, and what precedes a closing bracket. -/
structure Layout where
  opening : Nat → String
  comma : Nat → String
  colon : String
  closing : Nat → String

def newLine (depth : Nat) : String :=
  String.ofList ('\n' :: List.replicate (2 * depth) ' ')

def Layout.oneLine : Layout := ⟨fun _ => "", fun _ => ",", ":", fun _ => ""⟩

def Layout.indented : Layout :=
  ⟨fun depth => newLine (depth + 1), fun depth => "," ++ newLine (depth + 1), ": ",
    fun depth => newLine depth⟩

/-- Joins the parts of a list or an object; an empty one has no inner space. -/
def Layout.enclose (layout : Layout) (depth : Nat) (first last : String) (parts : List String) :
    String :=
  if parts.isEmpty then first ++ last
  else
    first ++ layout.opening depth ++ String.intercalate (layout.comma depth) parts ++
      layout.closing depth ++ last

mutual

def render (layout : Layout) (depth : Nat) : Value → String
  | .null => "null"
  | .bool true => "true"
  | .bool false => "false"
  | .int value => Text.decimal value
  | .real text => text
  | .string text => stringText text
  | .array items => layout.enclose depth "[" "]" (renderItems layout (depth + 1) items)
  | .object members =>
      layout.enclose depth "\x7b" "\x7d" (renderMembers layout (depth + 1) members)

def renderItems (layout : Layout) (depth : Nat) : List Value → List String
  | [] => []
  | item :: rest => render layout depth item :: renderItems layout depth rest

def renderMembers (layout : Layout) (depth : Nat) : List (String × Value) → List String
  | [] => []
  | (name, value) :: rest =>
      (stringText name ++ layout.colon ++ render layout depth value) ::
        renderMembers layout depth rest

end

/-- The value on one line. -/
def Value.oneLine (value : Value) : String := render .oneLine 0 value

/-- The value with one member or item per line. -/
def Value.indented (value : Value) : String := render .indented 0 value

end AssetAudit.Json
