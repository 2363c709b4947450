import MetricPaths.Template.Reader

/-! What is checked once a template is read: that its filters and tests exist, and
that no loop assigns to its own state. Inside a branch or a choice a filter or a
test that does not exist is at fault only when it is reached. -/
namespace MetricPaths
namespace Template

def filterNames : List String :=
  ["abs", "attr", "batch", "capitalize", "center", "count", "d", "default", "dictsort", "e",
    "escape", "filesizeformat", "first", "float", "forceescape", "format", "groupby", "indent",
    "int", "items", "join", "last", "length", "list", "lower", "map", "max", "min", "pprint",
    "random", "reject", "rejectattr", "replace", "reverse", "round", "safe", "select",
    "selectattr", "slice", "sort", "string", "striptags", "sum", "title", "tojson", "trim",
    "truncate", "unique", "upper", "urlencode", "urlize", "wordcount", "wordwrap", "xmlattr"]

def testNames : List String :=
  ["odd", "even", "divisibleby", "defined", "undefined", "filter", "test", "none", "boolean",
    "false", "true", "integer", "float", "lower", "upper", "string", "mapping", "number",
    "sequence", "iterable", "callable", "sameas", "escaped", "in", "==", "eq", "equalto", "!=",
    "ne", ">", "gt", "greaterthan", "ge", ">=", "<", "lt", "lessthan", "<=", "le"]

def filterFault? (soft : Bool) (name : String) : Option Fault :=
  if soft || filterNames.contains name then none else some (.unknownFilter name)

def testFault? (soft : Bool) (name : String) : Option Fault :=
  if soft || testNames.contains name then none else some (.unknownTest name)

def Literal.isTruthy : Literal → Bool
  | .none => false
  | .bool b => b
  | .int i => i != 0
  | .float x => x != 0.0
  | .str s => s != ""

/-- Whether a value is known and settles a conjunction or a disjunction. -/
def Expr.settles (truth : Bool) : Expr → Bool
  | .literal l => l.isTruthy = truth
  | _ => false

mutual

def Expr.fault? (soft : Bool) : Expr → Option Fault
  | .literal _ | .name _ => none
  | .list items | .tuple items | .join items => faultOfAll? soft items
  | .dict entries => faultOfPairs? soft entries
  | .member e _ | .unary _ e => e.fault? soft
  | .item a b | .binary _ a b => (a.fault? soft).or (b.fault? soft)
  | .both a b => if a.settles false then none else (a.fault? soft).or (b.fault? soft)
  | .either a b => if a.settles true then none else (a.fault? soft).or (b.fault? soft)
  | .slice e a b c =>
    (e.fault? soft).or ((faultOfOption? soft a).or ((faultOfOption? soft b).or (faultOfOption? soft c)))
  | .call e arguments => (e.fault? soft).or (faultOfArguments? soft arguments)
  | .filter e name arguments =>
    (filterFault? soft name).or ((e.fault? soft).or (faultOfArguments? soft arguments))
  | .test e name arguments =>
    (testFault? soft name).or ((e.fault? soft).or (faultOfArguments? soft arguments))
  | .compare e others => (e.fault? soft).or (faultOfComparisons? soft others)
  | .choice c y n => (c.fault? true).or ((y.fault? true).or (faultOfOption? true n))

def faultOfAll? (soft : Bool) : List Expr → Option Fault
  | [] => none
  | e :: rest => (e.fault? soft).or (faultOfAll? soft rest)

def faultOfPairs? (soft : Bool) : List (Expr × Expr) → Option Fault
  | [] => none
  | (k, v) :: rest => (k.fault? soft).or ((v.fault? soft).or (faultOfPairs? soft rest))

def faultOfOption? (soft : Bool) : Option Expr → Option Fault
  | none => none
  | some e => e.fault? soft

def faultOfArguments? (soft : Bool) : List (Passing × Expr) → Option Fault
  | [] => none
  | (_, e) :: rest => (e.fault? soft).or (faultOfArguments? soft rest)

def faultOfComparisons? (soft : Bool) : List (Comparison × Expr) → Option Fault
  | [] => none
  | (_, e) :: rest => (e.fault? soft).or (faultOfComparisons? soft rest)

end

def faultOfChain? (filters : FilterChain) : Option Fault :=
  filters.findSome? fun f => (filterFault? false f.1).or (faultOfArguments? false f.2)

def faultOfParameters? (parameters : Parameters) : Option Fault :=
  parameters.findSome? fun p => faultOfOption? false p.2

mutual

/-- Names that a statement assigns to anywhere inside it. -/
def Node.assigned : Node → List String
  | .text _ | .output _ | .foreign => []
  | .branch cases otherwise => assignedInCases cases ++ assignedIn otherwise
  | .loop t _ _ body otherwise => t.names ++ assignedIn body ++ assignedIn otherwise
  | .assign t _ => t.names
  | .capture t _ body => t.names ++ assignedIn body
  | .scope bindings body => bindings.flatMap (fun b => b.1.names) ++ assignedIn body
  | .define name parameters body => name :: parameters.map (·.1) ++ assignedIn body
  | .callWith parameters _ _ body => parameters.map (·.1) ++ assignedIn body
  | .filtered _ body | .block _ body => assignedIn body

def assignedIn : List Node → List String
  | [] => []
  | n :: rest => n.assigned ++ assignedIn rest

def assignedInCases : List (Expr × List Node) → List String
  | [] => []
  | (_, body) :: rest => assignedIn body ++ assignedInCases rest

end

mutual

def Node.fault? (soft : Bool) : Node → Option Fault
  | .text _ | .foreign => none
  | .output e | .assign _ e => e.fault? soft
  | .branch cases otherwise => (faultOfCases? cases).or (faultOfNodes? true otherwise)
  | .loop t items condition body otherwise =>
    if (t.names ++ assignedIn body ++ assignedIn otherwise).contains "loop" then some .loopAssigned
    else (items.fault? soft).or ((faultOfOption? false condition).or
      ((faultOfNodes? false body).or (faultOfNodes? false otherwise)))
  | .capture _ filters body | .filtered filters body =>
    (faultOfChain? filters).or (faultOfNodes? false body)
  | .scope bindings body =>
    (bindings.findSome? fun b => b.2.fault? soft).or (faultOfNodes? false body)
  | .define _ parameters body => (faultOfParameters? parameters).or (faultOfNodes? false body)
  | .callWith parameters callee arguments body =>
    (faultOfParameters? parameters).or ((callee.fault? soft).or
      ((faultOfArguments? soft arguments).or (faultOfNodes? false body)))
  | .block _ body => faultOfNodes? false body

def faultOfNodes? (soft : Bool) : List Node → Option Fault
  | [] => none
  | n :: rest => (n.fault? soft).or (faultOfNodes? soft rest)

def faultOfCases? : List (Expr × List Node) → Option Fault
  | [] => none
  | (e, body) :: rest => (e.fault? true).or ((faultOfNodes? true body).or (faultOfCases? rest))

end

def read (s : List Char) : Except Fault (List Node) := do
  let tokens ← Token.ofText s
  let found ← Grammar.parse tokens
  match faultOfNodes? false found with
  | some fault => throw fault
  | none => return found

end Template

/-- A template that has been read and checked; it keeps its text. -/
structure Template where
  source : String
  body : List Template.Node
  isRead : Template.read source.toList = .ok body

namespace Template

def compile (source : String) : Except Fault Template :=
  match h : read source.toList with
  | .ok body => .ok ⟨source, body, h⟩
  | .error fault => .error fault

end Template
end MetricPaths
