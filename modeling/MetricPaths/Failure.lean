import MetricPaths.Value

/-! Failures that the library reports: their kind, their message and the details
that say what was at fault; and the log, which tells of them as events with fields. -/
namespace MetricPaths

inductive FailureKind where
  | general
  | configuration
  | validation
  | template
  | format
deriving Repr, DecidableEq

namespace FailureKind

def label : FailureKind → String
  | general => "GraphiteBridgeError"
  | configuration => "ConfigurationError"
  | validation => "ValidationError"
  | template => "TemplateError"
  | format => "FormatError"

def ofLabel? (name : String) : Option FailureKind :=
  [general, configuration, validation, template, format].find? (·.label = name)

def exitCode : FailureKind → Nat
  | general => 127
  | configuration => 10
  | validation => 12
  | template => 13
  | format => 14

end FailureKind

/-- Named details in the order they were given; a name stands there once. -/
abbrev Details := List (String × Value)

namespace Details

def put (name : String) (value : Value) : Details → Details
  | [] => [(name, value)]
  | (n, v) :: rest => if n = name then (n, value) :: rest else (n, v) :: put name value rest

def putAll (details more : Details) : Details := more.foldl (fun acc e => put e.1 e.2 acc) details

def has (name : String) (details : Details) : Bool := details.any (·.1 = name)

def setDefault (name : String) (value : Value) (details : Details) : Details :=
  if details.has name then details else details ++ [(name, value)]

def ofList (entries : List (String × Value)) : Details := putAll [] entries

end Details

structure Failure where
  kind : FailureKind
  message : String
  details : Details
deriving Repr

namespace Failure

def exitCode (f : Failure) : Nat := f.kind.exitCode

/-- The message for a reader: details follow in parentheses, in their order. -/
def display (f : Failure) : String :=
  if f.details.isEmpty then f.message
  else f.message ++ " (" ++
    Value.commaSeparated (f.details.map fun (name, value) => name ++ "=" ++ value.text) ++ ")"

end Failure

/-- Faults outside the failures that the library reports. -/
inductive Accident where
  | directory
  | encoding
  /-- A file's name or path is too long to be asked for. -/
  | name
  /-- A scalar is outside the values its tag has, or a number is too long to be written. -/
  | value
  | type
  /-- A pattern that nobody checked before is not a pattern. -/
  | pattern
  /-- A pattern repeats something more often than can be counted. -/
  | overflow
  /-- The settings hold a name that is none of theirs. -/
  | settings
  /-- A log field is given twice. -/
  | field
  /-- A truth value is spelled in no known way. -/
  | spelling
  /-- A number has no digits. -/
  | digits
  /-- A scalar is tagged as a moment and is none. -/
  | moment
  | recursion
  | other (kind : String)
deriving Repr, DecidableEq

def Accident.label : Accident → String
  | directory => "IsADirectoryError"
  | encoding => "UnicodeDecodeError"
  | name => "OSError"
  | value => "ValueError"
  | type => "TypeError"
  | pattern => "error"
  | overflow => "OverflowError"
  | settings => "ValidationError"
  | field => "KeyError"
  | spelling => "KeyError"
  | digits => "IndexError"
  | moment => "AttributeError"
  | recursion => "RecursionError"
  | other kind => kind

inductive Problem where
  | failure (f : Failure)
  | accident (a : Accident)
deriving Repr

namespace Value

/-- What keeps a value from being a key of a JSON object. -/
def keyFault? : Value → Option Accident
  | .null | .bool _ | .float _ | .str _ => none
  | .int i => if (Value.int i).isWritable then none else some .value
  | _ => some .type

mutual

/-- What keeps a value from being written as JSON. What JSON does not know is written as text. -/
def jsonFault? : Value → Option Accident
  | .list items | .tuple items => jsonFaults? items
  | .map entries => entryFault? entries
  | v => if v.isWritable then none else some .value

def jsonFaults? : List Value → Option Accident
  | [] => none
  | v :: rest => v.jsonFault?.or (jsonFaults? rest)

def entryFault? : List (Value × Value) → Option Accident
  | [] => none
  | (k, v) :: rest => k.keyFault?.or (v.jsonFault?.or (entryFault? rest))

end
end Value

namespace Log

inductive Level where
  | debug
  | info
  | warning
  | error
deriving Repr, DecidableEq

def Level.label : Level → String
  | debug => "debug"
  | info => "info"
  | warning => "warning"
  | error => "error"

def Level.weight : Level → Nat
  | debug => 10
  | info => 20
  | warning => 30
  | error => 40

structure Entry where
  event : String
  level : Level
  fields : Details
deriving Repr

/-- The names that a call of the log has for itself; no field can be given under one of them. -/
def callNames : List String := ["event", "method_name", "self"]

def clash? (ownFields : List String) (details : Details) : Option Accident :=
  if details.any fun e => ownFields.contains e.1 then some .field
  else if details.any fun e => callNames.contains e.1 then some .type
  else none

/-- The names under which a line of the log tells its level and its time, and those under which
a trace is asked for. No other value is told under any of them. -/
def reservedNames : List String := ["level", "timestamp", "stack_info", "exc_info"]

/-- A trace that is asked for is told under another name. Its text is not kept. -/
def addTrace (asked name : String) (e : Entry) (line : Details) : Details :=
  if (e.fields.lookup asked).any (!·.isFalsy) then line.put name (.str "") else line

def Entry.line (e : Entry) : Details :=
  addTrace "exc_info" "exception" e (addTrace "stack_info" "stack" e
    (e.fields.filter fun f => !reservedNames.contains f.1))

end Log

abbrev Log := List Log.Entry

def Log.Entry.written (threshold : Nat) (e : Log.Entry) : Except Accident Log :=
  if e.level.weight < threshold then .ok []
  else match e.line.findSome? fun f => f.2.jsonFault? with
    | some a => .error a
    | none => .ok [{ e with fields := e.line }]

def Log.atLeast (threshold : Nat) (log : Log) : Log :=
  log.filter fun e => threshold ≤ e.level.weight
end MetricPaths
