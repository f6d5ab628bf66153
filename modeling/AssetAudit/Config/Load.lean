import AssetAudit.Config.Parse
import AssetAudit.Environment.Basic
import AssetAudit.Files.TextFile
import AssetAudit.Json.Reader

namespace AssetAudit

/-! The configuration of a run: the defaults, then a JSON file, then the number of workers in
the environment, then the one on the command line. -/

/-- Why a run has no configuration, as its user is told. -/
inductive ConfigError where
  | unreadable (path : String) (failure : AccessFailure)
  | malformed (path : String) (problem : Json.Problem) (place : Json.Place)
  | faulty (fault : ConfigFault)
  /-- The environment gives something else than a positive number of workers. -/
  | badWorkers (text : String)
  /-- The command line gives a number of workers that is not positive. -/
  | badWorkersOption
deriving DecidableEq

namespace ConfigError

def message : ConfigError → String
  | unreadable path failure => "cannot read config " ++ path ++ ": " ++ failure.message path
  | malformed path problem place =>
      "invalid JSON in " ++ path ++ ": " ++ (Json.ReadError.malformed problem place).message
  | faulty fault => fault.message
  | badWorkers text =>
      Environment.workersVariable ++ ": expected a positive integer, got " ++ Text.quoted text
  | badWorkersOption => "--workers: expected a positive integer"

end ConfigError

/-- Why loading a configuration ends.  Some faults of a file end the whole run. -/
inductive ConfigFailure where
  | rejected (error : ConfigError)
  | undecodable (error : Text.Utf8.DecodeError)
  | tooManyDigits (count : Nat)
  | embeddedNul
deriving DecidableEq

def ConfigFailure.message : ConfigFailure → String
  | rejected error => error.message
  | undecodable error => error.message
  | tooManyDigits count => (Json.ReadError.tooManyDigits count).message
  | embeddedNul => AccessFailure.embeddedNul.reason

namespace ConfigFailure

def ofText (path : String) : TextFailure → ConfigFailure
  | .access .embeddedNul => embeddedNul
  | .access failure => rejected (.unreadable path failure)
  | .decoding error => undecodable error

def ofJson (path : String) : Json.ReadError → ConfigFailure
  | .malformed problem place => rejected (.malformed path problem place)
  | .tooManyDigits count => tooManyDigits count

def ofFault (fault : ConfigFault) : ConfigFailure := rejected (.faulty fault)

end ConfigFailure

namespace Config

/-- The configuration with the fields that a file gives. -/
def readFile (config : Config) (workspace : Workspace) (path : String) :
    Except ConfigFailure Config := do
  let text ← (workspace.readText path).mapError (ConfigFailure.ofText path)
  let value ← (Json.read text).mapError (ConfigFailure.ofJson path)
  (config.parse value).mapError ConfigFailure.ofFault

/-- The path of the file: the one asked for, or else the one in the environment.  An empty path
counts as none. -/
def filePath? (environment : Environment) (path? : Option String) : Option String :=
  (path?.filter fun path => !path.isEmpty).orElse fun _ =>
    environment.setting? Environment.configVariable

/-- The number of workers that a text stands for. -/
def workersOf? (text : String) : Option Nat :=
  match Text.integer? text.toList with
  | some number => if 1 ≤ number then some number.toNat else none
  | none => none

/-- The configuration with the number of workers in the environment, if there is one. -/
def withVariable (config : Config) (environment : Environment) : Except ConfigFailure Config :=
  match environment.setting? Environment.workersVariable with
  | none => .ok config
  | some text =>
      match workersOf? text with
      | some workers => .ok { config with workers }
      | none => .error (.rejected (.badWorkers text))

/-- The defaults with a file, if there is one, and with the environment. -/
def load (workspace : Workspace) (environment : Environment) (path? : Option String) :
    Except ConfigFailure Config := do
  let config ←
    match filePath? environment path? with
    | some path => ({} : Config).readFile workspace path
    | none => pure {}
  config.withVariable environment

/-- The configuration with the number of workers on the command line. -/
def withWorkers (config : Config) (workers : Int) : Except ConfigFailure Config :=
  if 1 ≤ workers then .ok { config with workers := workers.toNat }
  else .error (.rejected .badWorkersOption)

end Config

end AssetAudit
