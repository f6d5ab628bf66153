import AssetAudit.AuditLog
import AssetAudit.CommandLine.Help
import AssetAudit.Config.Load
import AssetAudit.Environment.Load
import AssetAudit.Report.Data
import AssetAudit.Report.Text

namespace AssetAudit.CommandLine

/-! A run of the program: from the command line to the exit status, with all that it writes. -/

/-- What goes to the error stream. -/
inductive Notice where
  | line (text : String)
  | log (line : LogLine)
deriving DecidableEq

def Notice.text : Notice → String
  | .line shown => shown
  | .log entry => entry.text

/-- Why a run ends without an exit status of its own. -/
inductive RunFailure where
  | environment (failure : EnvironmentFailure)
  | config (failure : ConfigFailure)
  | audit (failure : AuditFailure)
  | size (failure : SizeFailure)
  /-- The number of workers was dropped, and nothing cannot be compared with the least number. -/
  | droppedWorkers
  /-- The least score was dropped, and no score can be compared with nothing. -/
  | droppedLeastScore

def RunFailure.message : RunFailure → String
  | environment failure => failure.message
  | config failure => failure.message
  | audit failure => failure.message
  | size failure => failure.message
  | droppedWorkers => "'<' not supported between instances of 'list' and 'int'"
  | droppedLeastScore => "'<' not supported between instances of 'int' and 'list'"

/-- What a run writes, and how it ends. -/
structure Response where
  output : String
  notices : List Notice
  /-- The exit status. -/
  status : Nat

/-- A run as its surroundings see it. -/
structure Run where
  /-- The environment behind the run. -/
  environment : Environment
  result : Except RunFailure Response

def unlines (lines : List String) : String := String.join (lines.map (· ++ "\n"))

namespace Response

/-- Output and a successful end. -/
def success (lines : List String) : Response := ⟨unlines lines, [], 0⟩

/-- Lines on the error stream and a failed end. -/
def failure (lines : List String) : Response := ⟨"", lines.map .line, 1⟩

/-- The response with notices in front of the others. -/
def after (notices : List Notice) (response : Response) : Response :=
  { response with notices := notices ++ response.notices }

/-- The answer to a command line that asks for no run. -/
def ofRefusal (refusal : Refusal) : Response :=
  match refusal.stop with
  | .help => success refusal.page.helpLines
  | .refused error => ⟨"", (refusal.page.refusalLines error).map .line, 2⟩

end Response

/-- A rule in the list of all rules. -/
def ruleLine (family : Family) : String :=
  let name := (Rule.builtIn family).name
  "  " ++ name ++ spaces (16 - name.length) ++ " " ++ Rule.headline family

/-- The full text on one rule, or a list of all rules. -/
def explain (rule? : Option String) : Response :=
  match rule? with
  | none =>
      .success (["Available rules:", ""] ++ Family.byRuleName.map ruleLine ++
        ["", "Run: asset-tool help <rule> for full docs."])
  | some name =>
      match Family.byRuleName.find? fun family => (Rule.builtIn family).name = name with
      | some family => .success [Rule.documentation family]
      | none =>
          let available := Family.byRuleName.map fun family => (Rule.builtIn family).name
          .failure ["Unknown rule: " ++ name, "Available: " ++ String.intercalate ", " available]

/-- The complaint of a gate on the score. -/
def scoreGate (score : Int) : StatedNumber → Except RunFailure (List String)
  | .unstated => .ok []
  | .dropped => .error .droppedLeastScore
  | .number least =>
      if score < least then
        .ok ["",
          "FAIL: compliance score " ++ Text.decimal score ++ " is below " ++ Text.decimal least]
      else .ok []

/-- The complaint of a gate on unused images. -/
def unusedGate (unused : List Asset) (isOn : Bool) : List String :=
  if isOn && !unused.isEmpty then
    ["", "FAIL: " ++ Text.decimal unused.length ++ " unused image(s)"]
  else []

/-- The complaints of all gates about a report. -/
def gates (report : AuditReport) (options : ReportOptions) : Except RunFailure (List String) := do
  return (← scoreGate report.compliance.score options.leastScore) ++
    unusedGate report.usage.unused options.failsOnUnused

/-- A report as text or as data. -/
def reportText (report : AuditReport) (command : ReportCommand) (options : ReportOptions) :
    Except SizeFailure String :=
  if options.asData then DataReport.text report command.selection
  else TextReport.text report command.selection

/-- Writes a report; then the gates decide about the status. -/
def respond (report : AuditReport) (command : ReportCommand) (options : ReportOptions)
    (log : List LogLine) : Except RunFailure Response := do
  let text ← (reportText report command options).mapError .size
  let complaints ← gates report options
  return ⟨text ++ "\n", log.map .log ++ complaints.map .line, if complaints.isEmpty then 0 else 1⟩

/-- The line about something that the user has to mend. -/
def errorLine (message : String) : String := "Error: " ++ message

/-- A configuration with the number of workers that the user states. -/
def withStatedWorkers (config : Config) : StatedNumber → Except RunFailure Config
  | .unstated => .ok config
  | .dropped => .error .droppedWorkers
  | .number workers => (config.withWorkers workers).mapError .config

/-- The configuration of a run. -/
def configOf (workspace : Workspace) (environment : Environment) (options : ReportOptions) :
    Except RunFailure Config := do
  let config ← (Config.load workspace environment options.config).mapError .config
  withStatedWorkers config options.workers

/-- Audits a project with a configuration and reports on it. -/
def auditWith (workspace : Workspace) (command : ReportCommand) (root : String)
    (options : ReportOptions) (config : Config) : Except RunFailure Response :=
  match Survey.readWithWorkers workspace root config with
  | .error (.survey (.scan (.notADirectory root))) =>
      .ok (.failure [errorLine (ScanFailure.notADirectory root).message])
  | .error failure => .error (.audit failure)
  | .ok survey =>
      match survey.report config Rule.standard with
      | .error failure => .error (.audit (.rule failure))
      | .ok report =>
          respond report command options
            (shownLines options.verbose (survey.logLines config Rule.standard))

/-- Runs a report command. -/
def runReport (workspace : Workspace) (environment : Environment) (command : ReportCommand)
    (root : String) (options : ReportOptions) : Except RunFailure Response :=
  match configOf workspace environment options with
  | .error (.config (.rejected error)) => .ok (.failure [errorLine error.message])
  | .error failure => .error failure
  | .ok config => auditWith workspace command root options config

namespace Request

/-- Answers a request in an environment with all settings. -/
def answer (workspace : Workspace) (environment : Environment) : Request →
    Except RunFailure Response
  | overview => .ok ⟨unlines Page.overview.helpLines, [], 1⟩
  | explain rule? => .ok (CommandLine.explain rule?)
  | report command root options => runReport workspace environment command root options

def isVerbose : Request → Bool
  | report _ _ options => options.verbose
  | _ => false

end Request

/-- The line about the settings file that was used. -/
def loadedLine (path : String) : String := programName ++ ": loaded " ++ path

/-- Takes in the settings of the project, then answers the request. -/
def Invocation.run (workspace : Workspace) (environment : Environment)
    (invocation : Invocation) : Run :=
  let loading := environment.load workspace invocation.settingsFile
  match loading.outcome with
  | .error failure => ⟨loading.environment, .error (.environment failure)⟩
  | .ok path? =>
      let notices :=
        (shownLines invocation.request.isVerbose loading.log).map .log ++
          (path?.map fun path => Notice.line (loadedLine path)).toList
      ⟨loading.environment,
        (invocation.request.answer workspace loading.environment).map (Response.after notices)⟩

/-- Runs the program with these arguments. -/
def run (workspace : Workspace) (environment : Environment) (arguments : List String) : Run :=
  match Invocation.ofArguments arguments with
  | .ok invocation => invocation.run workspace environment
  | .error refusal => ⟨environment, .ok (.ofRefusal refusal)⟩

end AssetAudit.CommandLine
