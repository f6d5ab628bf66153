import AssetAudit.CommandLine.Reading
import AssetAudit.Compliance.Registry
import AssetAudit.Report.Basic

namespace AssetAudit.CommandLine

/-! The commands of the program, their options, and what a command line asks for. -/

/-- A command that audits a project and reports a part of the result. -/
inductive ReportCommand where
  | audit
  | unused
  | compliance
  /-- The rule of one family. -/
  | rule (family : Family)
deriving DecidableEq

namespace ReportCommand

def all : List ReportCommand := [audit, unused, compliance] ++ Family.byRuleName.map rule

def name : ReportCommand → String
  | audit => "audit"
  | unused => "unused"
  | compliance => "compliance"
  | rule family => (Rule.builtIn family).name

def summary : ReportCommand → String
  | audit => "Unused images plus the full compliance report"
  | unused => "List images no source file references"
  | compliance => "Run every compliance rule and print the score"
  | rule family => Rule.headline family

/-- What the report of the command shows. -/
def selection : ReportCommand → Selection
  | audit => ⟨[.unused, .compliance], Family.byRuleName⟩
  | unused => ⟨[.unused], Family.byRuleName⟩
  | compliance => ⟨[.compliance], Family.byRuleName⟩
  | rule family => ⟨[.compliance], [family]⟩

def ofName? (name : String) : Option ReportCommand := all.find? fun command => command.name = name

end ReportCommand

/-- The name of the command that explains the rules. -/
def explainName : String := "help"

def commandNames : List String := ReportCommand.all.map ReportCommand.name ++ [explainName]

/-- A number that the user may state. -/
inductive StatedNumber where
  | unstated
  | number (value : Int)
  /-- There was a value, but it was dropped. -/
  | dropped
deriving DecidableEq

def StatedNumber.ofValue? : Option Int → StatedNumber
  | some value => number value
  | none => dropped

/-- The options of the report commands. -/
structure ReportOptions where
  asData : Bool := false
  config : Option String := none
  workers : StatedNumber := .unstated
  verbose : Bool := false
  /-- The least compliance score with which the run succeeds. -/
  leastScore : StatedNumber := .unstated
  /-- Does the run fail if any image is unused? -/
  failsOnUnused : Bool := false
deriving DecidableEq

def helpForm : OptionForm σ := ⟨["-h", "--help"], .help, "show this help message and exit"⟩

/-- The options in front of the command: its settings are the path of the settings file. -/
def overviewForms : List (OptionForm (Option String)) := [
  helpForm,
  ⟨["--env-file"], .text "PATH" fun path? _ => path?,
    "Path to .env file (default: walk up from cwd to .git boundary)"⟩]

def reportForms : List (OptionForm ReportOptions) := [
  helpForm,
  ⟨["-j", "--json"], .switch fun options => { options with asData := true },
    "Output JSON instead of text"⟩,
  ⟨["-c", "--config"], .text "PATH" fun path? options => { options with config := path? },
    "JSON config file (default: $ASSET_TOOL_CONFIG)"⟩,
  ⟨["-w", "--workers"],
    .number "N" fun workers? options => { options with workers := .ofValue? workers? },
    "Worker threads (default: 8)"⟩,
  ⟨["-v", "--verbose"], .switch fun options => { options with verbose := true },
    "Debug logging to stderr"⟩,
  ⟨["--fail-under"],
    .number "N" fun score? options => { options with leastScore := .ofValue? score? },
    "Exit 1 if the compliance score is below N (CI gating)"⟩,
  ⟨["--fail-on-unused"], .switch fun options => { options with failsOnUnused := true },
    "Exit 1 if any image is unused (CI gating)"⟩]

def explainForms : List (OptionForm Unit) := [helpForm]

/-- What a command line asks for, apart from help about the command line itself. -/
inductive Request where
  /-- There is no command. -/
  | overview
  /-- The full text on one rule, or a list of all rules. -/
  | explain (rule? : Option String)
  | report (command : ReportCommand) (root : String) (options : ReportOptions)
deriving DecidableEq

structure Invocation where
  /-- The path of the settings file that the user names. -/
  settingsFile : Option String
  request : Request
deriving DecidableEq

/-- The part of the command line that an error or a help text is about. -/
inductive Page where
  | overview
  | report (command : ReportCommand)
  | explain
deriving DecidableEq

/-- A command line that asks for no run: for help, or it is refused. -/
structure Refusal where
  page : Page
  stop : Stop
deriving DecidableEq

namespace Request

/-- The request of a command with its arguments, and the arguments that the command does not
take. -/
def ofCommand (name : String) (arguments : List String) :
    Except Refusal (Request × List String) :=
  match ReportCommand.ofName? name with
  | some command => do
      let reading ← (Reading.ofArguments reportForms .one {} arguments).mapError
        (Refusal.mk (.report command))
      return (.report command ((reading.operands.getD []).headD "") reading.settings,
        reading.extras)
  | none =>
      if name = explainName then do
        let reading ← (Reading.ofArguments explainForms .atMostOne () arguments).mapError
          (Refusal.mk .explain)
        return (.explain ((reading.operands.getD []).head?), reading.extras)
      else .error ⟨.overview, .refused (.unknownCommand name commandNames)⟩

/-- The request of the operands of the program: a command with its arguments, or nothing. -/
def ofOperands : List String → Except Refusal (Request × List String)
  | [] => .ok (.overview, [])
  | name :: arguments => ofCommand name arguments

end Request

/-- Reads a command line.  What neither the program nor the command takes is reported last. -/
def Invocation.ofArguments (arguments : List String) : Except Refusal Invocation := do
  let reading ← (Reading.ofArguments overviewForms .command none arguments).mapError
    (Refusal.mk .overview)
  let (request, extras) ← Request.ofOperands (reading.operands.getD [])
  match reading.extras ++ extras with
  | [] => return ⟨reading.settings, request⟩
  | texts => throw ⟨.overview, .refused (.unrecognized texts)⟩

end AssetAudit.CommandLine
