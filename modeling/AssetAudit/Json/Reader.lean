import AssetAudit.Json.Value
import AssetAudit.Text.Integer
import AssetAudit.Text.Surrogate

namespace AssetAudit.Json

/-! Reading JSON.  Beside the standard forms the reader takes `NaN` and the infinities as
numbers.  Each error names the rule that was broken and the place where the text breaks it. -/

inductive Problem where
  | expectingValue
  | expectingName
  | expectingColon
  | expectingComma
  | extraData
  | unterminatedString
  | invalidControl
  | invalidEscape
  | invalidUnicodeEscape
  | byteOrderMark
deriving DecidableEq

def Problem.message : Problem → String
  | .expectingValue => "Expecting value"
  | .expectingName => "Expecting property name enclosed in double quotes"
  | .expectingColon => "Expecting ':' delimiter"
  | .expectingComma => "Expecting ',' delimiter"
  | .extraData => "Extra data"
  | .unterminatedString => "Unterminated string starting at"
  | .invalidControl => "Invalid control character at"
  | .invalidEscape => "Invalid \\escape"
  | .invalidUnicodeEscape => "Invalid \\uXXXX escape"
  | .byteOrderMark => "Unexpected UTF-8 BOM (decode using utf-8-sig)"

/-- A place in a text: line and column count from one, the offset from zero. -/
structure Place where
  line : Nat
  column : Nat
  offset : Nat
deriving DecidableEq

/-- The place behind the characters `before`. -/
def Place.after (before : List Char) : Place where
  line := before.count '\n' + 1
  column := (before.reverse.takeWhile (· ≠ '\n')).length + 1
  offset := before.length

/-- Why a text is not read.  Nesting is no reason: a text is taken to be nested within the recursion
limit of the interpreter that runs the reader, and any depth is read. -/
inductive ReadError where
  /-- The text is no JSON. -/
  | malformed (problem : Problem) (place : Place)
  /-- A whole number has more digits than are read. -/
  | tooManyDigits (count : Nat)
deriving DecidableEq

def ReadError.message : ReadError → String
  | .malformed problem place =>
      problem.message ++ ": line " ++ Text.decimal place.line ++ " column " ++
        Text.decimal place.column ++ " (char " ++ Text.decimal place.offset ++ ")"
  | .tooManyDigits count =>
      "Exceeds the limit (" ++ Text.decimal Text.maxDigits ++
        " digits) for integer string conversion: value has " ++ Text.decimal count ++
        " digits; use sys.set_int_max_str_digits() to increase the limit"

/-- An error inside a text, located by what is left of the text there. -/
inductive Failure where
  | malformed (problem : Problem) (rest : List Char)
  | tooManyDigits (count : Nat)

def Failure.locate (text : List Char) : Failure → ReadError
  | .malformed problem rest =>
      .malformed problem (Place.after (text.take (text.length - rest.length)))
  | .tooManyDigits count => .tooManyDigits count

def isJsonBlank (c : Char) : Bool := c == ' ' || c == '\t' || c == '\n' || c == '\r'

def skipBlanks (text : List Char) : List Char := text.dropWhile isJsonBlank

def hexValue? (c : Char) : Option Nat :=
  if '0' ≤ c && c ≤ '9' then some (c.toNat - '0'.toNat)
  else if 'a' ≤ c && c ≤ 'f' then some (c.toNat - 'a'.toNat + 10)
  else if 'A' ≤ c && c ≤ 'F' then some (c.toNat - 'A'.toNat + 10)
  else none

/-- The UTF-16 unit that four hexadecimal digits write. -/
def unit? : List Char → Option Nat
  | [a, b, c, d] => do
      return (((← hexValue? a) * 16 + (← hexValue? b)) * 16 + (← hexValue? c)) * 16 +
        (← hexValue? d)
  | _ => none

def simpleEscape? : Char → Option Char
  | '"' => some '"'
  | '\\' => some '\\'
  | '/' => some '/'
  | 'b' => some '\x08'
  | 'f' => some '\x0c'
  | 'n' => some '\n'
  | 'r' => some '\r'
  | 't' => some '\t'
  | _ => none

/-- Reads an escape behind its backslash: the character it stands for and the text behind it.
`start` is the text from the opening quote on. -/
def readEscape (start : List Char) : List Char → Except Failure (Char × List Char)
  | [] => .error (.malformed .unterminatedString start)
  | 'u' :: rest =>
      let here := 'u' :: rest
      match rest.drop 4, unit? (rest.take 4) with
      | _ :: _, some unit =>
          let after := rest.drop 4
          match Text.Surrogate.isHigh unit && after.length > 6, after with
          | true, '\\' :: 'u' :: more =>
              match unit? (more.take 4) with
              | some low =>
                  if Text.Surrogate.isLow low then
                    .ok (Text.Surrogate.charOfPair unit low, more.drop 4)
                  else .ok (Text.Surrogate.charOfUnit unit, after)
              | none => .error (.malformed .invalidUnicodeEscape ('u' :: more))
          | _, _ => .ok (Text.Surrogate.charOfUnit unit, after)
      | _, _ => .error (.malformed .invalidUnicodeEscape here)
  | c :: rest =>
      match simpleEscape? c with
      | some meant => .ok (meant, rest)
      | none => .error (.malformed .invalidEscape ('\\' :: c :: rest))

/-- Reads the rest of a string behind its opening quote. -/
def readString (start : List Char) : Nat → List Char → Except Failure (List Char × List Char)
  | 0, _ | _, [] => .error (.malformed .unterminatedString start)
  | fuel + 1, c :: rest =>
      if c = '"' then
        .ok ([], rest)
      else if c = '\\' then do
        let (meant, after) ← readEscape start rest
        let (chars, behind) ← readString start fuel after
        return (meant :: chars, behind)
      else if c.toNat < 0x20 then
        .error (.malformed .invalidControl (c :: rest))
      else do
        let (chars, behind) ← readString start fuel rest
        return (c :: chars, behind)

def isDigit (c : Char) : Bool := '0' ≤ c && c ≤ '9'

/-- The digits before the point: a single zero, or digits that start with another one. -/
def takeWhole : List Char → Option (List Char × List Char)
  | '0' :: rest => some (['0'], rest)
  | c :: rest =>
      if isDigit c then some (c :: rest.takeWhile isDigit, rest.dropWhile isDigit) else none
  | [] => none

/-- A point with digits behind it, or nothing. -/
def takeFraction : List Char → List Char × List Char
  | '.' :: c :: rest =>
      if isDigit c then ('.' :: c :: rest.takeWhile isDigit, rest.dropWhile isDigit)
      else ([], '.' :: c :: rest)
  | text => ([], text)

/-- An exponent with at least one digit, or nothing. -/
def takeExponent (text : List Char) : List Char × List Char :=
  match text with
  | mark :: rest =>
      if mark = 'e' || mark = 'E' then
        let (sign, digits) :=
          match rest with
          | '+' :: more => (['+'], more)
          | '-' :: more => (['-'], more)
          | more => ([], more)
        match digits with
        | c :: _ =>
            if isDigit c then
              (mark :: sign ++ digits.takeWhile isDigit, digits.dropWhile isDigit)
            else ([], text)
        | [] => ([], text)
      else ([], text)
  | [] => ([], text)

def natOfDigits (digits : List Char) : Nat :=
  digits.foldl (fun value digit => 10 * value + (digit.toNat - '0'.toNat)) 0

/-- Reads the longest number at the start of the text. -/
def readNumber (text : List Char) : Except Failure (Value × List Char) :=
  let (negative, unsigned) :=
    match text with
    | '-' :: rest => (true, rest)
    | _ => (false, text)
  match takeWhole unsigned with
  | none => .error (.malformed .expectingValue text)
  | some (whole, afterWhole) =>
      let (fraction, afterFraction) := takeFraction afterWhole
      let (exponent, rest) := takeExponent afterFraction
      if fraction.isEmpty && exponent.isEmpty then
        if whole.length > Text.maxDigits then
          .error (.tooManyDigits whole.length)
        else
          let value : Int := natOfDigits whole
          .ok (.int (if negative then -value else value), rest)
      else
        let sign := if negative then ['-'] else []
        .ok (.real (String.ofList (sign ++ whole ++ fraction ++ exponent)), rest)

/-- The words that stand for a value. -/
def keywords : List (List Char × Value) := [
  ("null".toList, .null),
  ("true".toList, .bool true),
  ("false".toList, .bool false),
  ("NaN".toList, .real "NaN"),
  ("Infinity".toList, .real "Infinity"),
  ("-Infinity".toList, .real "-Infinity")]

def readKeyword? (text : List Char) : Option (Value × List Char) :=
  (keywords.find? fun (word, _) => word.isPrefixOf text).map fun (word, value) =>
    (value, text.drop word.length)

mutual

/-- Reads one value at the very start of the text.  A step into a list or an object takes two
units of fuel and a character, so twice the length of the text is fuel enough. -/
def readValue : Nat → List Char → Except Failure (Value × List Char)
  | 0, text => .error (.malformed .expectingValue text)
  | _ + 1, '"' :: rest => do
      let (chars, behind) ← readString ('"' :: rest) (rest.length + 1) rest
      return (.string (String.ofList chars), behind)
  | fuel + 1, '{' :: rest =>
      match skipBlanks rest with
      | '}' :: behind => .ok (.object [], behind)
      | inside => do
          let (members, behind) ← readMembers fuel [] inside
          return (.object members, behind)
  | fuel + 1, '[' :: rest =>
      match skipBlanks rest with
      | ']' :: behind => .ok (.array [], behind)
      | inside => do
          let (items, behind) ← readItems fuel inside
          return (.array items, behind)
  | _ + 1, text =>
      match readKeyword? text with
      | some found => .ok found
      | none => readNumber text

/-- Reads members up to the closing brace and adds them to those before. -/
def readMembers : Nat → List (String × Value) → List Char →
    Except Failure (List (String × Value) × List Char)
  | 0, _, text => .error (.malformed .expectingName text)
  | fuel + 1, before, '"' :: rest => do
      let (name, afterName) ← readString ('"' :: rest) (rest.length + 1) rest
      match skipBlanks afterName with
      | ':' :: afterColon =>
          let (value, afterValue) ← readValue fuel (skipBlanks afterColon)
          let members := KeyedList.put before (String.ofList name) value
          match skipBlanks afterValue with
          | '}' :: behind => return (members, behind)
          | ',' :: more => readMembers fuel members (skipBlanks more)
          | other => throw (.malformed .expectingComma other)
      | other => throw (.malformed .expectingColon other)
  | _, _, text => .error (.malformed .expectingName text)

/-- Reads items up to the closing bracket. -/
def readItems : Nat → List Char → Except Failure (List Value × List Char)
  | 0, text => .error (.malformed .expectingValue text)
  | fuel + 1, text => do
      let (item, afterItem) ← readValue fuel text
      match skipBlanks afterItem with
      | ']' :: behind => return ([item], behind)
      | ',' :: more =>
          let (items, behind) ← readItems fuel (skipBlanks more)
          return (item :: items, behind)
      | other => throw (.malformed .expectingComma other)

end

/-- Reads a text that holds one value and nothing else. -/
def readText (text : List Char) : Except Failure Value :=
  match text with
  | '\ufeff' :: _ => .error (.malformed .byteOrderMark text)
  | _ => do
      let (value, behind) ← readValue (2 * text.length + 2) (skipBlanks text)
      match skipBlanks behind with
      | [] => return value
      | extra => throw (.malformed .extraData extra)

def read (text : List Char) : Except ReadError Value :=
  (readText text).mapError (Failure.locate text)

end AssetAudit.Json
