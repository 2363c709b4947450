import MetricPaths.Config
import MetricPaths.LabelPath

/-! Sessions: a configuration that is replaced and used step by step. A step that fails
leaves it as it was. -/
namespace MetricPaths
namespace Session
variable [Libraries]

def fileName : String := "rules.yaml"

/-- Steps that replace the configuration. -/
inductive Change where
  | document (v : Value) (settings : Settings)
  | load (files : Files) (path : Option String) (settings : Settings)
  | reload (settings : Settings)
  | adjust (lead format : Option String)

def Change.text (s : String) (settings : Settings) : Change :=
  .load [(fileName, .bytes (Utf8.encode s.toList))] (some fileName) settings

def Change.apply (c : Config) : Change → Except Problem Config
  | .document v settings => Config.ofValue v settings
  | .load files path settings => (Config.load files path settings).1
  | .reload settings => Config.ofValue c.toValue settings
  | .adjust lead format => do
    let layout ← match format with
      | none => pure c.layout
      | some name => Config.parseFormat name
    return { c with lead := lead.getD c.lead, layout := layout }

/-- All changes one after the other; those that fail do nothing. -/
def after (c : Config) (changes : List Change) : Config :=
  changes.foldl (fun c change => ((change.apply c).toOption).getD c) c

def paths (c : Config) (m : Metric) : Except Translator.Fault (List String) :=
  (c.translator.paths m c.shared).1

def batch (c : Config) (metrics : List Metric) : Translator.Batch := c.translator.batch metrics c.shared

def matching (c : Config) (m : Metric) : List Nat := Rule.matching m c.rules

def labels (c : Config) (path : String) : Except LabelPath.Fault (List (String × String)) :=
  LabelPath.labels path c.lead

end Session
end MetricPaths
