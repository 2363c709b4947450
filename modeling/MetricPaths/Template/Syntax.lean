/-! The syntax of templates: text with places for values, and statements between
them. -/
namespace MetricPaths
namespace Template

inductive Literal where
  | none
  | bool (b : Bool)
  | int (i : Int)
  | float (x : Float)
  | str (s : String)
deriving Repr, Inhabited

inductive Unary where
  | not
  | negate
  | plus
deriving Repr, DecidableEq

inductive Binary where
  | add
  | subtract
  | multiply
  | divide
  | floorDivide
  | modulo
  | power
deriving Repr, DecidableEq

inductive Comparison where
  | equal
  | unequal
  | less
  | lessEqual
  | greater
  | greaterEqual
  | isIn
  | notIn
deriving Repr, DecidableEq

inductive Passing where
  | positional
  | keyword (name : String)
  | spread
  | spreadKeywords
deriving Repr, DecidableEq

inductive Expr where
  | literal (value : Literal)
  | name (name : String)
  | list (items : List Expr)
  | tuple (items : List Expr)
  | dict (entries : List (Expr × Expr))
  | member (of : Expr) (name : String)
  | item (of index : Expr)
  | slice (of : Expr) (start stop step : Option Expr)
  | call (callee : Expr) (arguments : List (Passing × Expr))
  | filter (of : Expr) (name : String) (arguments : List (Passing × Expr))
  | test (of : Expr) (name : String) (arguments : List (Passing × Expr))
  | unary (op : Unary) (operand : Expr)
  | binary (op : Binary) (left right : Expr)
  | both (left right : Expr)
  | either (left right : Expr)
  | join (parts : List Expr)
  | compare (first : Expr) (others : List (Comparison × Expr))
  | choice (condition yes : Expr) (no : Option Expr)
deriving Repr, Inhabited

/-- What a value is assigned to: a name, several targets that share a sequence, or
a member of a namespace. -/
inductive Target where
  | name (name : String)
  | tuple (targets : List Target)
  | member (space name : String)
deriving Repr, Inhabited

/-- The uses of filters one after the other, without the value they begin with. -/
abbrev FilterChain := List (String × List (Passing × Expr))

abbrev Parameters := List (String × Option Expr)

inductive Node where
  | text (s : String)
  | output (value : Expr)
  | branch (cases : List (Expr × List Node)) (otherwise : List Node)
  | loop (target : Target) (subject : Expr) (condition : Option Expr) (body otherwise : List Node)
  | assign (target : Target) (value : Expr)
  | capture (target : Target) (filters : FilterChain) (body : List Node)
  | scope (bindings : List (Target × Expr)) (body : List Node)
  | define (name : String) (parameters : Parameters) (body : List Node)
  | callWith (parameters : Parameters) (callee : Expr) (arguments : List (Passing × Expr))
      (body : List Node)
  | filtered (filters : FilterChain) (body : List Node)
  | block (name : String) (body : List Node)
  /-- A statement that asks for another template. There is none. -/
  | foreign
deriving Repr, Inhabited

mutual

def Expr.names : Expr → List String
  | .literal _ => []
  | .name n => [n]
  | .list items | .tuple items | .join items => namesOfAll items
  | .dict entries => namesOfPairs entries
  | .member e _ => e.names
  | .item e i => e.names ++ i.names
  | .slice e a b c => e.names ++ namesOfOption a ++ namesOfOption b ++ namesOfOption c
  | .call e arguments | .filter e _ arguments | .test e _ arguments => e.names ++ namesOfArguments arguments
  | .unary _ e => e.names
  | .binary _ a b | .both a b | .either a b => a.names ++ b.names
  | .compare e others => e.names ++ namesOfComparisons others
  | .choice c y n => c.names ++ y.names ++ namesOfOption n

def namesOfAll : List Expr → List String
  | [] => []
  | e :: rest => e.names ++ namesOfAll rest

def namesOfPairs : List (Expr × Expr) → List String
  | [] => []
  | (k, v) :: rest => k.names ++ v.names ++ namesOfPairs rest

def namesOfOption : Option Expr → List String
  | none => []
  | some e => e.names

def namesOfArguments : List (Passing × Expr) → List String
  | [] => []
  | (_, e) :: rest => e.names ++ namesOfArguments rest

def namesOfComparisons : List (Comparison × Expr) → List String
  | [] => []
  | (_, e) :: rest => e.names ++ namesOfComparisons rest

end

def namesOfChain (filters : FilterChain) : List String :=
  filters.flatMap fun f => namesOfArguments f.2

def namesOfParameters (parameters : Parameters) : List String :=
  parameters.flatMap fun p => namesOfOption p.2

mutual

def Node.names : Node → List String
  | .text _ | .foreign => []
  | .output e => e.names
  | .branch cases otherwise => namesOfCases cases ++ namesOfNodes otherwise
  | .loop _ subject condition body otherwise =>
    subject.names ++ namesOfOption condition ++ namesOfNodes body ++ namesOfNodes otherwise
  | .assign target e => (match target with | .member space _ => [space] | _ => []) ++ e.names
  | .capture _ filters body | .filtered filters body => namesOfChain filters ++ namesOfNodes body
  | .scope bindings body => bindings.flatMap (fun b => b.2.names) ++ namesOfNodes body
  | .define _ parameters body => namesOfParameters parameters ++ namesOfNodes body
  | .callWith parameters callee arguments body =>
    namesOfParameters parameters ++ callee.names ++ namesOfArguments arguments ++ namesOfNodes body
  | .block _ body => namesOfNodes body

def namesOfNodes : List Node → List String
  | [] => []
  | n :: rest => n.names ++ namesOfNodes rest

def namesOfCases : List (Expr × List Node) → List String
  | [] => []
  | (e, body) :: rest => e.names ++ namesOfNodes body ++ namesOfCases rest

end

def Target.names : Target → List String
  | .name n => [n]
  | .tuple targets => namesOfTargets targets
  | .member _ _ => []
where
  namesOfTargets : List Target → List String
  | [] => []
  | t :: rest => t.names ++ namesOfTargets rest

end Template
end MetricPaths
