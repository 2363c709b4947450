import MetricPaths.Rule
import MetricPaths.Layout

/-! Translation of metrics into paths by an ordered table of rules. Every rule that is
for a metric can add a path; the first of them that does not continue ends the table,
and only if none does the default path comes last. -/
namespace MetricPaths
open Libraries (Shared)

structure Translator [Libraries] where
  rules : List Rule
  lead : String
  choice : Layout.Choice

namespace Translator

/-- Why a metric has no paths. A template's failure is blamed on its rule. -/
inductive Fault where
  | layout (fault : Layout.Fault)
  | rule (index : Nat) (metric : String) (failure : Failure)
  | accident (a : Accident)
deriving Repr

namespace Fault

def ofProblem (index : Nat) (metric : String) : Problem → Fault
  | .failure f => .rule index metric f
  | .accident a => .accident a

def problem : Fault → Problem
  | .layout fault => .failure fault.failure
  | .rule index _ failure =>
    .failure { failure with details := failure.details.setDefault "rule" (.int index) }
  | .accident a => .accident a

/-- A template's failure is logged where it happens. -/
def log : Fault → Log
  | .rule index metric failure =>
    [⟨"template_render_failed", .debug,
      [("rule", .int index), ("metric", .str metric), ("error", .str failure.message)]⟩]
  | _ => []

end Fault

variable [Libraries]

/-- The paths that rules add, the first of them standing at `index` of the table, and
whether one of them ends it. -/
def rulePaths (name : String) (metric : Metric) (index : Nat) :
    List Rule → Shared → Except Fault (List String × Bool) × Shared
  | [], shared => (.ok ([], false), shared)
  | rule :: rest, shared =>
    if rule.isMatch metric then
      match rule.paths metric shared with
      | (.error problem, left) => (.error (.ofProblem index name problem), left)
      | (.ok here, left) =>
        if rule.continues then
          match rulePaths name metric (index + 1) rest left with
          | (.ok (more, ended), left) => (.ok (here ++ more, ended), left)
          | (.error fault, left) => (.error fault, left)
        else (.ok (here, true), left)
    else rulePaths name metric (index + 1) rest shared

def paths (t : Translator) (metric : Metric) (shared : Shared) :
    Except Fault (List String) × Shared :=
  match metric.name? with
  | none => (.error (.layout metric.nameless), shared)
  | some name =>
    match rulePaths name metric 0 t.rules shared with
    | (.error fault, left) => (.error fault, left)
    | (.ok (found, true), left) => (.ok found, left)
    | (.ok (found, false), left) =>
      match metric.defaultPath t.choice t.lead with
      | .error fault => (.error (.layout fault), left)
      | .ok last => (.ok (found ++ [last]), left)

def ownFields : List String := ["metric", "error_type", "error"]

def dropped (metric : Metric) (failure : Failure) : Log.Entry :=
  ⟨"metric_dropped", .warning,
    [("metric", .ofText? metric.name?), ("error_type", .str failure.kind.label),
      ("error", .str failure.message)] ++ failure.details⟩

/-- What a batch gives: its metrics that have paths, the log of the others and their
number, and the shared data as it is left. An accident is the end of the batch, and nothing
is given then but the log. -/
structure Batch where
  results : List (Metric × List String)
  log : Log
  dropped : Nat
  shared : Shared
  accident : Option Accident

/-- Metrics one after the other; one that fails is logged and left out. -/
def each (t : Translator) : List Metric → Shared → Batch
  | [], shared => ⟨[], [], 0, shared, none⟩
  | metric :: rest, shared =>
    match t.paths metric shared with
    | (.ok found, left) =>
      let b := t.each rest left
      { b with results := (metric, found) :: b.results }
    | (.error fault, left) =>
      match fault.problem with
      | .accident a => ⟨[], [], 0, left, some a⟩
      | .failure failure =>
        match Log.clash? ownFields failure.details with
        | some a => ⟨[], fault.log, 0, left, some a⟩
        | none =>
          let b := t.each rest left
          { b with log := fault.log ++ dropped metric failure :: b.log, dropped := b.dropped + 1 }

/-- A batch of metrics. If any is left out, the log ends with the counts. -/
def batch (t : Translator) (metrics : List Metric) (shared : Shared) : Batch :=
  let b := t.each metrics shared
  if b.accident.isSome then { b with results := [] }
  else if b.dropped = 0 then b
  else
    { b with log := b.log ++ [⟨"batch_translated", .info,
      [("translated", .int b.results.length), ("dropped", .int b.dropped)]⟩] }

end Translator
end MetricPaths
