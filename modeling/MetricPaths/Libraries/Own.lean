import MetricPaths.Libraries
import MetricPaths.Command.Markup
import MetricPaths.Pattern.Matcher
import MetricPaths.Pattern.Reader
import MetricPaths.Settings
import MetricPaths.Template.Evaluation
import MetricPaths.Yaml.Document

/-! The libraries that the program brings along: its own search patterns, templates, documents,
settings and markup. They agree with others on what is common in rules files, and leave out what
is not. A template sees the metric's labels as a mapping that cannot be changed, the shared data,
and the escaping of segments. -/
namespace MetricPaths
namespace Template

/-- Data that all templates share. Lists in it can be changed by a template; the
store keeps the change for those that come later. -/
structure Shared where
  root : Datum
  store : Store

namespace Shared

def ofValue (v : Value) : Shared :=
  let (root, store) := Store.load #[] v
  ⟨root, store⟩

def empty : Shared := ⟨.dict [], #[]⟩

end Shared

def bound : Nat := 1000

def labelsView (metric : Metric) : Datum :=
  .view (metric.labels.map fun (name, value) => (.plain name, .plain value))

def globals : List (String × Datum) :=
  [("range", .builtin .range), ("dict", .builtin .dict), ("namespace", .builtin .namespace),
    ("lipsum", .builtin (.other "lipsum")), ("cycler", .builtin (.other "cycler")),
    ("joiner", .builtin (.other "joiner"))]

def context (metric : Metric) (shared : Datum) : Frame :=
  ⟨[("shared", shared), ("labels", labelsView metric), ("escape", .builtin .escape)] ++ globals, []⟩

/-- The shared data after rendering. Data without lists has nothing that a template could
change, and the lists that a template makes for itself are lost with it. -/
def Shared.left (shared : Shared) (final : Machine) : Shared :=
  if shared.store.isEmpty || !final.touched then shared else { shared with store := final.store }

def render (template : Template) (metric : Metric) (shared : Shared) :
    Except RenderFault String × Shared :=
  let start : Machine := ⟨shared.store, #[context metric shared.root], shared.store.size, false⟩
  let (result, final) := (runAll bound [0] template.body).run.run start
  (result, shared.left final)

end Template

/-- A pattern that is well formed can still be beyond use. -/
def Pattern.Fault.refusal : Pattern.Fault → Refusal
  | .malformed => .reported
  | .tooMany => .accident .overflow
  | .mixedAlphabets => .accident .value

def Yaml.Fault.refusal : Yaml.Fault → Refusal
  | .malformed => .reported
  | .accident a => .accident a

namespace Libraries

def readYaml (data : List UInt8) : Except Refusal Value :=
  match Content.text (.bytes data) with
  | .error a => .error (.accident a)
  | .ok s => (Yaml.read s).mapError Yaml.Fault.refusal

instance own : Libraries where
  CompiledPattern := Pattern.Node
  compilePattern source := (Pattern.read source.toList).mapError Pattern.Fault.refusal
  isFound node text := Pattern.search node text.toList
  CompiledTemplate := Template
  compileTemplate source := (Template.compile source).mapError fun _ => .reported
  Shared := Template.Shared
  share := Template.Shared.ofValue
  render := Template.render
  readDocument := readYaml
  readSettings := Settings.read
  showLine := Markup.plain?

end Libraries
end MetricPaths
