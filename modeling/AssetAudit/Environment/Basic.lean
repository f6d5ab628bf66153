import AssetAudit.KeyedList

namespace AssetAudit

/-! The environment: variables with their values. -/

abbrev Environment := List (String × String)

namespace Environment

/-- All variables of this program start like this. -/
def ownStart : String := "ASSET_TOOL_"

/-- The variable with the path of the configuration. -/
def configVariable : String := "ASSET_TOOL_CONFIG"

/-- The variable with the number of workers. -/
def workersVariable : String := "ASSET_TOOL_WORKERS"

/-- Does the variable belong to this program? -/
def isOwn (name : String) : Bool := ownStart.toList.isPrefixOf name.toList

/-- The value of a variable, unless it is not set or empty. -/
def setting? (environment : Environment) (name : String) : Option String :=
  (KeyedList.get? environment name).filter fun value => !value.isEmpty

end Environment

end AssetAudit
