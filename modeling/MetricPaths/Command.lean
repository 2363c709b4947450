import MetricPaths.Failure

/-! Commands: whatever a command does, it ends with an exit code. A failure is told to
the user and logged. -/
namespace MetricPaths
namespace Command

inductive Ending where
  | code (n : Int)
  | failure (f : Failure) (withTrace : Bool)
  | interrupted
  | unexpected (kind message : String)
deriving Repr

structure Options where
  showTrace : Bool := false
  logFailures : Bool := true

/-- What a command leaves: its exit code, what it tells the user, whether a trace was
shown, and its log. A failure whose details bear the names of the log's own fields, or that
have no JSON, cannot be logged, and one whose details have no text cannot even be told. -/
structure Report where
  exit : Except Accident Int
  message : String
  trace : Bool
  log : Log

def ownFields : List String := ["error_type", "message", "exit_code"]

def failureEntry (f : Failure) : Log.Entry :=
  ⟨"command_error", .error,
    [("error_type", .str f.kind.label), ("message", .str f.message), ("exit_code", .int f.exitCode)] ++
      f.details⟩

def unknownCode : Nat := 127

def interruptCode : Nat := 130

def unexpectedEntry (kind message : String) : Log.Entry :=
  ⟨"unexpected_error", .error,
    [("error_type", .str kind), ("message", .str message), ("exit_code", .int unknownCode)]⟩

def told (f : Failure) : String := "Error: " ++ f.display ++ "\n"

def logged (threshold : Nat) (options : Options) (f : Failure) : Except Accident Log :=
  if options.logFailures then
    match Log.clash? ownFields f.details with
    | some a => .error a
    | none => (failureEntry f).written threshold
  else .ok []

def concludeAt (threshold : Nat) (options : Options) (ending : Ending) : Report :=
  let unlessQuiet (entry : Log.Entry) : Log :=
    if options.logFailures then Log.atLeast threshold [entry] else []
  match ending with
  | .code n => ⟨.ok n, "", false, []⟩
  | .failure f withTrace =>
    match logged threshold options f with
    | .error a => ⟨.error a, "", false, []⟩
    | .ok log =>
      if f.details.all (·.2.isWritable) then
        ⟨.ok f.exitCode, told f, withTrace || options.showTrace, log⟩
      else ⟨.error .value, "", false, log⟩
  | .interrupted => ⟨.ok interruptCode, "", false, unlessQuiet ⟨"command_interrupted", .info, []⟩⟩
  | .unexpected kind message =>
    ⟨.ok unknownCode, "", options.showTrace, unlessQuiet (unexpectedEntry kind message)⟩

def conclude (options : Options) (ending : Ending) : Report := concludeAt 0 options ending

/-- How a command ends that meets a problem. The system's own words are not kept. -/
def Ending.ofProblem : Problem → Ending
  | .failure f => .failure f false
  | .accident a => .unexpected a.label ""

end Command
end MetricPaths
