import MetricPaths.Command
import MetricPaths.Command.Arguments
import MetricPaths.Config
import MetricPaths.LabelPath
import MetricPaths.Libraries.Own
import MetricPaths.Json.Writer

/-! The command line: `translate` shows the paths of a metric, `parse` the labels of a
path, and `check-config` what a rules file holds. The arguments and the environment are texts:
bytes that are no UTF-8 are given to none of them. -/
namespace MetricPaths
namespace CommandLine

structure World where
  environment : List (String × String)
  files : Files

inductive Shown where
  | text (s : String)
  | line (s : String)
  | table (title : Option String) (headers : List String) (rows : List (List String))
deriving Repr

structure Translate where
  name : String
  labels : List String
  config : Option String
  lead : Option String
  format : Option String
  json : Bool

structure Parse where
  path : String
  lead : Option String
  json : Bool

inductive Request where
  | translate (a : Translate)
  | parse (a : Parse)
  | check (file : String)

structure Line where
  logLevel : Option String
  request : Option Request

/-- What a command computes: what it shows, its log so far, and how it ends. -/
structure Work where
  shown : List Shown
  log : Log
  ending : Command.Ending

namespace Work

def failed (log : Log) (p : Problem) : Work := ⟨[], log, .ofProblem p⟩

def done (log : Log) (shown : List Shown) : Work := ⟨shown, log, .code 0⟩

end Work

def helpOptions : Arguments.Options := [⟨"-h", .help⟩, ⟨"--help", .help⟩]

def frontOptions : Arguments.Options := helpOptions ++ [⟨"--log-level", .value "log-level"⟩]

def translateOptions : Arguments.Options :=
  helpOptions ++ [⟨"-l", .value "label"⟩, ⟨"--label", .value "label"⟩, ⟨"--config", .value "config"⟩,
    ⟨"--prefix", .value "prefix"⟩, ⟨"--format", .value "format"⟩, ⟨"--json", .flag "json"⟩]

def parseOptions : Arguments.Options :=
  helpOptions ++ [⟨"--prefix", .value "prefix"⟩, ⟨"--json", .flag "json"⟩]

def requestOf (command : String) (arguments : List String) : Except Arguments.Stop Request := do
  match command with
  | "translate" =>
    let g ← Arguments.ofWords translateOptions arguments
    return .translate ⟨g.positional.getD "", g.all "label", g.last? "config", g.last? "prefix",
      g.last? "format", g.has "json"⟩
  | "parse" =>
    let g ← Arguments.ofWords parseOptions arguments
    return .parse ⟨g.positional.getD "", g.last? "prefix", g.has "json"⟩
  | "check-config" =>
    let g ← Arguments.ofWords helpOptions arguments
    return .check (g.positional.getD "")
  | _ => .error .usage

def lineOf (arguments : List String) : Except Arguments.Stop Line := do
  let ws ← Arguments.words frontOptions arguments
  let (g, command) ← Arguments.front frontOptions {} (ws.length + 1) arguments ws
  let request ← match command with
    | none => pure none
    | some (name, rest) => (requestOf name rest).map some
  if g.extra then .error .usage
  return ⟨g.last? "log-level", request⟩

/-- The threshold that a level's name stands for. -/
def threshold? (name : String) : Option Nat :=
  [("CRITICAL", 50), ("FATAL", 50), ("ERROR", 40), ("WARN", 30), ("WARNING", 30), ("INFO", 20),
    ("DEBUG", 10), ("NOTSET", 0)].lookup (String.ofList (Letters.upper name.toList))

def jsonOfPaths (paths : List String) : Json := .arr (paths.map .str)

def jsonOfMetric (m : Metric) : Json := .obj (m.labels.map fun (name, value) => (name, .str value))

def suppressed : String := "No paths (suppressed by rule)"

variable [Libraries]

def configFor (w : World) (a : Translate) : Except Problem Config × Log :=
  match Libraries.readSettings w.environment w.files with
  | .error accident => (.error (.accident accident), [])
  | .ok settings =>
    match Config.load w.files a.config settings with
    | (.error p, log) => (.error p, log)
    | (.ok c, log) =>
      let c := { c with lead := a.lead.getD c.lead }
      match a.format.filter (· ≠ "") with
      | none => (.ok c, log)
      | some name => ((Config.parseFormat name).map fun l => { c with layout := l }, log)

def showPaths (json : Bool) (paths : List String) : List Shown :=
  if json then [.text ((jsonOfPaths paths).write ++ "\n")]
  else if paths.isEmpty then [.line suppressed]
  else [.text (String.join (paths.map (· ++ "\n")))]

def translate (w : World) (a : Translate) : Work :=
  match configFor w a with
  | (.error p, log) => .failed log p
  | (.ok c, log) =>
    match Metric.ofArguments a.name a.labels with
    | .error fault => .failed log (.failure fault.failure)
    | .ok m =>
      match (c.translator.paths m c.shared).1 with
      | .error fault => .failed (log ++ fault.log) fault.problem
      | .ok paths => .done log (showPaths a.json paths)

def leadFor (w : World) (lead : Option String) : Except Accident String :=
  match lead with
  | some lead => .ok lead
  | none => (Libraries.readSettings w.environment w.files).map (·.lead)

def showLabels (a : Parse) (labels : List (String × String)) : List Shown :=
  if a.json then [.text ((jsonOfMetric (Metric.ofList labels)).write ++ "\n")]
  else [.table (some a.path) ["Label", "Value"] (labels.map fun (name, value) => [name, value])]

def parse (w : World) (a : Parse) : Work :=
  match leadFor w a.lead with
  | .error accident => .failed [] (.accident accident)
  | .ok lead =>
    match LabelPath.labels a.path lead with
    | .error fault => .failed [] (.failure fault.failure)
    | .ok labels => .done [] (showLabels a labels)

def row (rule : Rule) (index : Nat) : List String :=
  [Nat.repr index,
    Value.commaSeparated (rule.exact.map fun (label, value) => label ++ "=" ++ value.getD "None"),
    Value.commaSeparated (rule.patterns.map fun (label, pattern) => label ++ "=~" ++ pattern.source),
    rule.template.getD "-",
    if rule.continues then "yes" else "no"]

def summary (file : String) (c : Config) : String :=
  "[green]✓[/green] " ++ file ++ ": " ++ Nat.repr c.rules.length ++ " rule(s), format " ++ c.layout.name

def showConfig (c : Config) : List Shown :=
  if c.rules.isEmpty then []
  else [.table none ["#", "match", "match_re", "template", "continue"]
    (c.rules.zipIdx.map fun (rule, i) => row rule i)]

def check (w : World) (file : String) : Work :=
  match Libraries.readSettings w.environment w.files with
  | .error accident => .failed [] (.accident accident)
  | .ok settings =>
    match Config.load w.files (some file) settings with
    | (.error p, log) => .failed log p
    | (.ok c, log) =>
      match Libraries.showLine (summary file c) with
      | none => ⟨[], log, .unexpected "MarkupError" ""⟩
      | some line => .done log (.line line :: showConfig c)

def Request.work (w : World) : Request → Work
  | .translate a => CommandLine.translate w a
  | .parse a => CommandLine.parse w a
  | .check file => CommandLine.check w file

/-- What is left of a run: its exit code, what it showed, what it told, and the log as far
as the level lets it through. -/
structure Result where
  exit : Except Accident Int
  shown : List Shown
  message : String
  log : Log

inductive Outcome where
  | usage (code : Nat)
  | ran (r : Result)

def perform (w : World) (threshold : Nat) (request : Request) : Result :=
  let work := request.work w
  let report := Command.concludeAt threshold {} work.ending
  ⟨report.exit, work.shown, report.message, (work.log ++ report.log).atLeast threshold⟩

def thresholdFor (w : World) (logLevel : Option String) : Except Accident Nat := do
  let name ← match logLevel.filter (· ≠ "") with
    | some name => pure name
    | none => (Libraries.readSettings w.environment w.files).map (·.logLevel)
  match threshold? name with
  | some t => return t
  | none => .error .value

/-- Runs a command line. Without a command it explains itself. -/
def run (w : World) (arguments : List String) : Outcome :=
  match lineOf arguments with
  | .error .usage => .usage 2
  | .error .help => .usage 0
  | .ok line =>
    match thresholdFor w line.logLevel with
    | .error accident => .ran ⟨.error accident, [], "", []⟩
    | .ok threshold =>
      match line.request with
      | none => .usage 0
      | some request => .ran (perform w threshold request)

end CommandLine
end MetricPaths
