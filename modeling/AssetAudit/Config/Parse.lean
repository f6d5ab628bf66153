import AssetAudit.Config
import AssetAudit.Json.Value
import AssetAudit.Text.Integer
import AssetAudit.Text.Sorted

namespace AssetAudit

/-! The JSON form of a configuration.  It is an object that gives some of the fields; all others
keep their values. -/

/-- The fields that a configuration may give. -/
inductive ConfigField where
  | inferenceRules
  | roleSuffixes
  | assetDirectories
  | hdSuffixes
  | fallbackExtensions
  | maxExpansionDepth
  | workers
deriving DecidableEq

namespace ConfigField

def all : List ConfigField :=
  [inferenceRules, roleSuffixes, assetDirectories, hdSuffixes, fallbackExtensions,
    maxExpansionDepth, workers]

def key : ConfigField → String
  | inferenceRules => "inference_rules"
  | roleSuffixes => "role_suffixes"
  | assetDirectories => "asset_directories"
  | hdSuffixes => "hd_suffixes"
  | fallbackExtensions => "fallback_extensions"
  | maxExpansionDepth => "max_expansion_depth"
  | workers => "workers"

def ofKey? (key : String) : Option ConfigField := all.find? fun field => field.key = key

end ConfigField

/-- What is wrong with the JSON form of a configuration. -/
inductive ConfigFault where
  | rootNotObject
  /-- The keys that name no field, in ascending order. -/
  | unknownKeys (keys : List String)
  | notStrings (key : String)
  | notPositive (key : String)
  | rulesNotList
  | malformedRule (index : Nat)
deriving DecidableEq

/-- How messages name an inference rule. -/
def ruleKey (index : Nat) : String :=
  ConfigField.inferenceRules.key ++ "[" ++ Text.decimal index ++ "]"

def ConfigFault.message : ConfigFault → String
  | rootNotObject => "config root must be a JSON object"
  | unknownKeys keys => "unknown config keys: " ++ String.intercalate ", " keys
  | notStrings key => key ++ ": expected a list of strings"
  | notPositive key => key ++ ": expected a positive integer"
  | rulesNotList => ConfigField.inferenceRules.key ++ ": expected a list"
  | malformedRule index =>
      ruleKey index ++ ": expected \x7b\"keywords\": [...], \"values\": [...]\x7d"

/-- A list that holds texts only. -/
def stringsAt (key : String) (value : Json.Value) : Except ConfigFault (List String) :=
  match value.strings? with
  | some texts => .ok texts
  | none => .error (.notStrings key)

/-- A whole number from one on, written without a fraction or an exponent. -/
def positiveAt (key : String) (value : Json.Value) : Except ConfigFault Nat :=
  match value with
  | .int number => if 1 ≤ number then .ok number.toNat else .error (.notPositive key)
  | _ => .error (.notPositive key)

namespace InferenceRule

/-- Has the object exactly the members of a rule? -/
def hasShape (members : List (String × Json.Value)) : Bool :=
  Text.sorted (KeyedList.names members) = ["keywords", "values"]

/-- The rule that an object with exactly two lists of texts stands for. -/
def ofValue (index : Nat) (value : Json.Value) : Except ConfigFault InferenceRule :=
  match value.member? "keywords", value.member? "values", value.object?.any hasShape with
  | some keywords, some values, true => do
      let keywords ← stringsAt (ruleKey index ++ ".keywords") keywords
      let values ← stringsAt (ruleKey index ++ ".values") values
      return ⟨keywords, values⟩
  | _, _, _ => .error (.malformedRule index)

/-- The rules in a list, whose entries are numbered from `index` on. -/
def listOfValues (index : Nat) : List Json.Value → Except ConfigFault (List InferenceRule)
  | [] => .ok []
  | value :: rest => do return (← ofValue index value) :: (← listOfValues (index + 1) rest)

def allOfValue (value : Json.Value) : Except ConfigFault (List InferenceRule) :=
  match value with
  | .array entries => listOfValues 0 entries
  | _ => .error .rulesNotList

end InferenceRule

namespace Config

/-- Gives one field a value. -/
def set (config : Config) (field : ConfigField) (value : Json.Value) :
    Except ConfigFault Config :=
  match field with
  | .inferenceRules => do
      return { config with inferenceRules := ← InferenceRule.allOfValue value }
  | .roleSuffixes => do return { config with roleSuffixes := ← stringsAt field.key value }
  | .assetDirectories => do return { config with assetDirectories := ← stringsAt field.key value }
  | .hdSuffixes => do return { config with hdSuffixes := ← stringsAt field.key value }
  | .fallbackExtensions => do
      return { config with fallbackExtensions := ← stringsAt field.key value }
  | .maxExpansionDepth => do
      return { config with maxExpansionDepth := ← positiveAt field.key value }
  | .workers => do return { config with workers := ← positiveAt field.key value }

/-- Gives the fields their values, one after the other; a key that names no field is passed
over. -/
def setAll (config : Config) : List (String × Json.Value) → Except ConfigFault Config
  | [] => .ok config
  | (key, value) :: rest =>
      match ConfigField.ofKey? key with
      | some field => do setAll (← config.set field value) rest
      | none => setAll config rest

/-- The keys that name no field, in ascending order. -/
def unknownKeys (members : List (String × Json.Value)) : List String :=
  Text.sorted ((KeyedList.names members).filter fun key => (ConfigField.ofKey? key).isNone)

/-- The configuration with all the fields that a JSON object gives.  Unknown keys are looked for
first; then the first member with a wrong value is the one that is reported. -/
def parse (base : Config) (value : Json.Value) : Except ConfigFault Config :=
  match value with
  | .object members =>
      match unknownKeys members with
      | [] => setAll base members
      | keys => .error (.unknownKeys keys)
  | _ => .error .rootNotObject

end Config

end AssetAudit
