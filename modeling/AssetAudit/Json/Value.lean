import AssetAudit.KeyedList

namespace AssetAudit.Json

/-! JSON values.  The members of an object keep the order in which their names first appeared,
and a later member of a name overrides an earlier one in its place. -/

/-- A number with a fraction or an exponent is kept as written: nothing computes with it. -/
inductive Value where
  | null
  | bool (value : Bool)
  | int (value : Int)
  | real (text : String)
  | string (text : String)
  | array (items : List Value)
  | object (members : List (String × Value))

namespace Value

/-- The value of an object's member. -/
def member? (name : String) : Value → Option Value
  | .object members => KeyedList.get? members name
  | _ => none

def string? : Value → Option String
  | .string text => some text
  | _ => none

def int? : Value → Option Int
  | .int value => some value
  | _ => none

def bool? : Value → Option Bool
  | .bool value => some value
  | _ => none

def array? : Value → Option (List Value)
  | .array items => some items
  | _ => none

def object? : Value → Option (List (String × Value))
  | .object members => some members
  | _ => none

/-- The texts of a list that holds texts only. -/
def strings? : Value → Option (List String)
  | .array items => items.mapM string?
  | _ => none

/-- A list of texts. -/
def strings (texts : List String) : Value := .array (texts.map .string)

/-- The value, or null. -/
def optional (value? : Option Value) : Value := value?.getD .null

end Value

end AssetAudit.Json
