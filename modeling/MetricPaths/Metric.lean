import MetricPaths.Failure

/-! Metrics: label names with their values. The metric's own name is the value of
a reserved label. A metric can be spelled as a name and `key=value` items. -/
namespace MetricPaths

def nameLabel : String := "__name__"

/-- Labels keep the order they were given in; a label name occurs once. -/
structure Metric where
  labels : List (String × String)
  distinct : (labels.map Prod.fst).Nodup

namespace Metric

def empty : Metric := ⟨[], List.nodup_nil⟩

def get? (m : Metric) (name : String) : Option String := m.labels.lookup name

def name? (m : Metric) : Option String := m.get? nameLabel

def names (m : Metric) : List String := m.labels.map Prod.fst

def putIn (name value : String) : List (String × String) → List (String × String)
  | [] => [(name, value)]
  | (n, v) :: rest => if n = name then (n, value) :: rest else (n, v) :: putIn name value rest

theorem mem_names_putIn {name value x : String} {labels : List (String × String)} :
    x ∈ (putIn name value labels).map Prod.fst → x = name ∨ x ∈ labels.map Prod.fst := by
  induction labels with
  | nil => simp [putIn]
  | cons e rest ih =>
    obtain ⟨n, v⟩ := e
    by_cases h : n = name
    · simp only [putIn, h, if_true, List.map_cons, List.mem_cons]; exact Or.inr
    · simp only [putIn, h, if_false, List.map_cons, List.mem_cons]
      rintro (hx | hx)
      · exact Or.inr (Or.inl hx)
      · exact (ih hx).imp_right Or.inr

theorem nodup_putIn {name value : String} {labels : List (String × String)}
    (h : (labels.map Prod.fst).Nodup) : ((putIn name value labels).map Prod.fst).Nodup := by
  induction labels with
  | nil => simp [putIn]
  | cons e rest ih =>
    obtain ⟨n, v⟩ := e
    rw [List.map_cons, List.nodup_cons] at h
    by_cases hn : n = name
    · simp only [putIn, hn, if_true, List.map_cons, List.nodup_cons]
      exact hn ▸ h
    · simp only [putIn, hn, if_false, List.map_cons, List.nodup_cons]
      refine ⟨fun hx => ?_, ih h.2⟩
      rcases mem_names_putIn hx with hx | hx
      · exact hn hx
      · exact h.1 hx

/-- A label that is there already keeps its place and takes the new value. -/
def insert (m : Metric) (name value : String) : Metric :=
  ⟨putIn name value m.labels, nodup_putIn m.distinct⟩

def ofList (labels : List (String × String)) : Metric :=
  labels.foldl (fun m e => m.insert e.1 e.2) empty

def sortNames (names : List String) : List String := names.mergeSort fun a b => decide (a ≤ b)

def sortedLabelNames (m : Metric) : List String := sortNames (m.names.filter (· ≠ nameLabel))

end Metric

namespace Metric

inductive ItemFault where
  | noKey (item : String)
  | duplicate (label : String)
deriving Repr, DecidableEq

def ItemFault.failure : ItemFault → Failure
  | .noKey item => ⟨.validation, "Labels must be given as key=value", [("label", .str item)]⟩
  | .duplicate label => ⟨.validation, "Duplicate label", [("label", .str label)]⟩

/-- Key and value, between which the first equals sign stands. The key is not empty. -/
def splitItem? (item : List Char) : Option (List Char × List Char) :=
  match item.dropWhile (· ≠ '=') with
  | [] => none
  | _ :: value =>
    let key := item.takeWhile (· ≠ '=')
    if key.isEmpty then none else some (key, value)

def addItems (m : Metric) : List String → Except ItemFault Metric
  | [] => .ok m
  | item :: rest =>
    match splitItem? item.toList with
    | none => .error (.noKey item)
    | some (key, value) =>
      let label := String.ofList key
      if label ∈ m.names then .error (.duplicate label)
      else addItems (m.insert label (String.ofList value)) rest

/-- The metric of a name and its items; the first item at fault is blamed. -/
def ofArguments (name : String) (items : List String) : Except ItemFault Metric :=
  addItems (empty.insert nameLabel name) items

end Metric
end MetricPaths
