import MetricPaths.Failure
import MetricPaths.Metric
import MetricPaths.Segment

/-! Default paths: the three layouts in which a metric's name and its labels, in
code-point order of their names, are written after a lead. Name and values are
escaped, label names stand as they are. -/
namespace MetricPaths

/-- `name.label.value`, `name;label=value` or `name{label="value"}`. -/
inductive Layout where
  | dotted
  | tagged
  | braced
deriving Repr, DecidableEq, Inhabited

namespace Layout

def all : List Layout := [dotted, tagged, braced]

def name : Layout → String
  | dotted => "carbon"
  | tagged => "carbon-tags"
  | braced => "carbon-openmetrics"

def ofName? (name : String) : Option Layout := all.find? (·.name = name)

@[simp] theorem ofName?_name (layout : Layout) : ofName? layout.name = some layout := by
  cases layout <;> decide

abbrev Tag := List Char × List Char

def dottedTag (t : Tag) : List Char := '.' :: t.1 ++ '.' :: t.2

def taggedTag (t : Tag) : List Char := ';' :: t.1 ++ '=' :: t.2

def bracedTag (t : Tag) : List Char := t.1 ++ '=' :: '"' :: t.2 ++ ['"']

def commas : List (List Char) → List Char
  | [] => []
  | [one] => one
  | one :: rest => one ++ ',' :: commas rest

def write (layout : Layout) (name : List Char) (tags : List Tag) : List Char :=
  match layout with
  | dotted => name ++ tags.flatMap dottedTag
  | tagged => name ++ tags.flatMap taggedTag
  | braced => name ++ '\x7b' :: commas (tags.map bracedTag) ++ ['\x7d']

/-- A format as it was asked for. -/
inductive Choice where
  | layout (l : Layout)
  | unsupported (name : String)
deriving Repr, DecidableEq

def Choice.ofName (name : String) : Choice :=
  match ofName? name with
  | some l => .layout l
  | none => .unsupported name

inductive Fault where
  | nameless (labels : List String)
  | unsupported (format : String)
deriving Repr, DecidableEq

def Fault.failure : Fault → Failure
  | .nameless labels =>
    ⟨.validation, "Metric has no name label", [("labels", .list (labels.map .str))]⟩
  | .unsupported format =>
    ⟨.validation, "Unsupported output format", [("format", .str format)]⟩

end Layout

namespace Metric
open Layout

/-- The labels but the reserved one, in code-point order, values escaped. -/
def tags (m : Metric) : List Tag :=
  m.sortedLabelNames.map fun label =>
    (label.toList, Segment.escape ((m.get? label).getD "").toList)

def nameless (m : Metric) : Layout.Fault := .nameless (sortNames m.names)

def defaultPath (m : Metric) (choice : Choice) (lead : String) : Except Layout.Fault String :=
  match m.name? with
  | none => .error m.nameless
  | some name =>
    match choice with
    | .layout l => .ok (lead ++ String.ofList (l.write (Segment.escape name.toList) m.tags))
    | .unsupported format => .error (.unsupported format)

end Metric
end MetricPaths
