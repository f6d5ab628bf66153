import AssetAudit.Environment.Basic
import AssetAudit.Files.Path

namespace AssetAudit

/-! Settings that enter the environment.  A variable that is set keeps its value, and variables
of other programs are left alone. -/

/-- Why a setting cannot become a variable. -/
inductive SettingFailure where
  | embeddedNul
  | illegalName
  | emptyName
deriving DecidableEq

def SettingFailure.message : SettingFailure → String
  | embeddedNul => "embedded null byte"
  | illegalName => "illegal environment variable name"
  | emptyName => "[Errno 22] Invalid argument"

/-- What is wrong with a name or the value for it, if anything is. -/
def SettingFailure.ofSetting? (name value : String) : Option SettingFailure :=
  if name.toList.contains '\x00' || value.toList.contains '\x00' then some embeddedNul
  else if name.toList.contains '=' then some illegalName
  else if name.isEmpty then some emptyName
  else none

/-- The outcome of applying settings. -/
structure AppliedSettings where
  environment : Environment
  /-- The variables that were set, in order. -/
  names : List String
  /-- The settings of other programs, in order. -/
  ignored : List String
  /-- The failure that ended the work. -/
  failure? : Option SettingFailure
deriving DecidableEq

namespace Environment

/-- The value that a setting gives its variable: the path of the configuration is one from the
directory of the settings. -/
def valueOf (base : CleanPath) (name value : String) : String :=
  if name = configVariable ∧ value ≠ "" ∧ !isAbsolutePath value then
    (base.join (.ofText value)).text
  else value

/-- Applies settings in order.  What was set before a failure stays set. -/
def apply (base : CleanPath) (environment : Environment) :
    List (String × String) → AppliedSettings
  | [] => ⟨environment, [], [], none⟩
  | (name, value) :: rest =>
      if !isOwn name then
        let applied := apply base environment rest
        { applied with ignored := name :: applied.ignored }
      else if KeyedList.contains environment name then
        apply base environment rest
      else
        let value := valueOf base name value
        match SettingFailure.ofSetting? name value with
        | some failure => ⟨environment, [], [], some failure⟩
        | none =>
            let applied := apply base (KeyedList.put environment name value) rest
            { applied with names := name :: applied.names }

end Environment

end AssetAudit
