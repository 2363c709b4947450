import MetricPaths.Failure
import MetricPaths.Metric
import MetricPaths.Segment

/-! Reading labels back from a path in the dotted layout: a lead, any number of
dots, the name, and a label name and a value for each label. Dots stand between
segments only, since none is left in an escaped one. Each character of a path has
UTF-8 bytes of its own, as in segments. -/
namespace MetricPaths
namespace LabelPath

inductive Fault where
  | lead (path lead : String)
  | noName (path : String)
  | oddSegments (path : String) (count : Nat)
  | segment (segment : List Char) (fault : Segment.Fault)
  | duplicate (path label : String)
deriving Repr, DecidableEq

def Fault.failure : Fault → Failure
  | .lead path start =>
    ⟨.format, "Path does not start with prefix", [("path", .str path), ("prefix", .str start)]⟩
  | .noName path => ⟨.format, "Path has no metric name", [("path", .str path)]⟩
  | .oddSegments path count =>
    ⟨.format, "Odd number of label segments in path", [("path", .str path), ("segments", .int count)]⟩
  | .duplicate path label =>
    ⟨.format, "Duplicate label in path", [("path", .str path), ("label", .str label)]⟩
  | .segment piece fault =>
    let whole : String × Value := ("segment", .str (String.ofList piece))
    match fault with
    | .malformedPercent position =>
      ⟨.format, "Malformed percent escape", [whole, ("position", .int position)]⟩
    | .danglingBackslash position =>
      ⟨.format, "Dangling backslash escape", [whole, ("position", .int position)]⟩
    | .notText fault =>
      ⟨.format, "Escaped segment is not valid UTF-8", [whole, ("reason", .str fault.reason)]⟩

/-- What follows the lead, if the path begins with it. -/
def afterLead? : List Char → List Char → Option (List Char)
  | [], path => some path
  | c :: lead, d :: path => if c = d then afterLead? lead path else none
  | _ :: _, [] => none

def segments : List Char → List (List Char)
  | [] => [[]]
  | c :: rest =>
    if c = '.' then [] :: segments rest
    else match segments rest with
      | [] => [[c]]
      | first :: others => (c :: first) :: others

def decodeSegment (segment : List Char) : Except Fault String :=
  match Segment.unescape segment with
  | .ok value => .ok (String.ofList value)
  | .error fault => .error (.segment segment fault)

/-- A label name and a value by turns. Names are not decoded. -/
def pairs : List (List Char) → Except Fault (List (String × String))
  | label :: value :: rest => do
    let value ← decodeSegment value
    let others ← pairs rest
    .ok ((String.ofList label, value) :: others)
  | _ => .ok []

/-- The labels of a path in path order, the metric's name first. -/
def labels (path lead : String) : Except Fault (List (String × String)) :=
  match afterLead? lead.toList path.toList with
  | none => .error (.lead path lead)
  | some rest =>
    match segments (rest.dropWhile (· = '.')) with
    | [] => .error (.noName path)
    | name :: others =>
      if name.isEmpty then .error (.noName path)
      else if others.length % 2 = 1 then .error (.oddSegments path others.length)
      else do
        let name ← decodeSegment name
        let others ← pairs others
        .ok ((nameLabel, name) :: others)

def addAll (path : String) (m : Metric) : List (String × String) → Except Fault Metric
  | [] => .ok m
  | (label, value) :: rest =>
    if label ∈ m.names then .error (.duplicate path label)
    else addAll path (m.insert label value) rest

def metric (path lead : String) : Except Fault Metric := do
  addAll path .empty (← labels path lead)

end LabelPath
end MetricPaths
