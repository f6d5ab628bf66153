import AssetAudit.CommandLine.Command

namespace AssetAudit.CommandLine

/-! Usage lines and help texts. -/

/-- No usage line is longer unless one of its parts is. -/
def usageWidth : Nat := 78

/-- The column in which the explanations start at the latest. -/
def lastColumn : Nat := 24

def spaces (count : Nat) : String := String.ofList (List.replicate count ' ')

/-- The lines that hold the parts in order, as many on each as fit.  `line` is the current one. -/
def fill (indent : String) (line : String) : List String → List String
  | [] => [line]
  | part :: rest =>
      if line.length + 1 + part.length > usageWidth then
        line :: fill indent (indent ++ part) rest
      else fill indent (line ++ " " ++ part) rest

/-- The lines of a usage with its options and operands.  When they do not fit on one line, the
operands start a line of their own. -/
def usageLines (program : String) (options operands : List String) : List String :=
  let start := "usage: " ++ program
  let indent := spaces (start.length + 1)
  let whole := String.intercalate " " (start :: options ++ operands)
  if whole.length ≤ usageWidth then [whole]
  else
    fill indent start options ++
      match operands with
      | [] => []
      | first :: rest => fill indent (indent ++ first) rest

/-- An option in a usage line. -/
def OptionForm.usage (form : OptionForm σ) : String :=
  let spelling := form.spellings.headD ""
  "[" ++ (match form.placeholder? with
    | some placeholder => spelling ++ " " ++ placeholder
    | none => spelling) ++ "]"

/-- An option in a help text, with all its spellings. -/
def OptionForm.heading (form : OptionForm σ) : String :=
  String.intercalate ", " (form.spellings.map fun spelling =>
    match form.placeholder? with
    | some placeholder => spelling ++ " " ++ placeholder
    | none => spelling)

/-- A line of a help text: something and its explanation. -/
structure HelpEntry where
  indent : Nat
  heading : String
  explanation : String

namespace HelpEntry

def width (entry : HelpEntry) : Nat := entry.indent + entry.heading.length

/-- The column in which the explanations of these entries start. -/
def column (entries : List HelpEntry) : Nat :=
  min lastColumn ((entries.map width).foldl max 0 + 2)

/-- An explanation starts on a line of its own when its heading is too long. -/
def lines (column : Nat) (entry : HelpEntry) : List String :=
  let heading := spaces entry.indent ++ entry.heading
  if entry.width + 2 ≤ column then
    [heading ++ spaces (column - entry.width) ++ entry.explanation]
  else [heading, spaces column ++ entry.explanation]

def ofForm (form : OptionForm σ) : HelpEntry := ⟨2, form.heading, form.summary⟩

end HelpEntry

/-- The choice of commands in usage lines and help texts. -/
def commandChoice : String := "\x7b" ++ String.intercalate "," commandNames ++ "\x7d"

def programName : String := "asset-tool"

namespace Page

def program : Page → String
  | overview => programName
  | report command => programName ++ " " ++ command.name
  | explain => programName ++ " " ++ explainName

def usage (page : Page) : List String :=
  match page with
  | overview =>
      usageLines page.program (overviewForms.map OptionForm.usage) [commandChoice, "..."]
  | report _ => usageLines page.program (reportForms.map OptionForm.usage) ["root"]
  | explain => usageLines page.program (explainForms.map OptionForm.usage) ["[topic]"]

def operandEntries : Page → List HelpEntry
  | overview =>
      ⟨2, commandChoice, "Command to run"⟩ ::
        ReportCommand.all.map (fun command => ⟨4, command.name, command.summary⟩) ++
        [⟨4, explainName, "Print full docs for a rule"⟩]
  | report _ => [⟨2, "root", "Project directory to scan"⟩]
  | explain => [⟨2, "topic", "Rule name"⟩]

def optionEntries : Page → List HelpEntry
  | overview => overviewForms.map HelpEntry.ofForm
  | report _ => reportForms.map HelpEntry.ofForm
  | explain => explainForms.map HelpEntry.ofForm

def description : Page → List String
  | overview =>
      ["", "Find unused images and App Store compliance issues in iOS projects."]
  | _ => []

def examples : List String := [
  "",
  "Examples:",
  "  asset-tool audit ./MyApp",
  "  asset-tool unused ./MyApp --json",
  "  asset-tool compliance ./MyApp --fail-under=80",
  "  asset-tool interlacing ./MyApp",
  "  asset-tool audit ./MyApp --config asset-tool.json -w 4",
  "  asset-tool help catalog",
  "",
  "Env vars (set in .env or environment):",
  "  ASSET_TOOL_CONFIG   path to a JSON config file",
  "  ASSET_TOOL_WORKERS  worker thread count"]

def epilogue : Page → List String
  | overview => examples
  | _ => []

def helpLines (page : Page) : List String :=
  let column := HelpEntry.column (page.operandEntries ++ page.optionEntries)
  page.usage ++ page.description ++
    ["", "positional arguments:"] ++ page.operandEntries.flatMap (HelpEntry.lines column) ++
    ["", "options:"] ++ page.optionEntries.flatMap (HelpEntry.lines column) ++ page.epilogue

/-- The lines that refuse a command line. -/
def refusalLines (page : Page) (error : UsageError) : List String :=
  page.usage ++ [page.program ++ ": error: " ++ error.message]

end Page

end AssetAudit.CommandLine
