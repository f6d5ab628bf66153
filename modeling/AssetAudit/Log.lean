namespace AssetAudit

/-! Messages about a run, beside its result. -/

inductive LogLevel where
  | debug
  | warning
deriving DecidableEq

def LogLevel.name : LogLevel → String
  | debug => "DEBUG"
  | warning => "WARNING"

/-- The part of the program that a message comes from. -/
inductive LogSource where
  | engine
  | environment
  | inventory
  | scoring
  | sources
  | usage
deriving DecidableEq

def LogSource.name : LogSource → String
  | engine => "asset_checker.engine"
  | environment => "asset_checker.env"
  | inventory => "asset_checker.inventory"
  | scoring => "asset_checker.scoring"
  | sources => "asset_checker.sources"
  | usage => "asset_checker.usage"

structure LogLine where
  level : LogLevel
  source : LogSource
  message : String
deriving DecidableEq

def LogLine.text (line : LogLine) : String :=
  line.level.name ++ " " ++ line.source.name ++ ": " ++ line.message

/-- The messages that a run shows; details are shown only on demand. -/
def shownLines (verbose : Bool) (lines : List LogLine) : List LogLine :=
  lines.filter fun line => verbose || line.level = .warning

end AssetAudit
