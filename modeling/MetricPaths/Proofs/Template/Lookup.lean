import MetricPaths.Template.Evaluation

/-! Templates that look labels up by name. Such a template asks for one label at a time, or
whether there is one or how many there are, and never goes through the labels; their order
makes no difference to it. -/
namespace MetricPaths
namespace Template

def labelsName : String := "labels"

/-- The methods of a read-only mapping. A subscript of such a name gives the method where no
label has the name, and with the method the labels as a whole. -/
def methodNames : List String := Attributes.ofView.filter fun name => !Attributes.isGuarded name

def Expr.isLabels : Expr → Bool
  | .name n => n = labelsName
  | _ => false

/-- A subscript that is written out and is not the name of a method. -/
def Expr.isPlainKey : Expr → Bool
  | .literal (.str s) => !methodNames.contains s
  | .literal _ => true
  | _ => false

def asksForLabel : List (Comparison × Expr) → Bool
  | [(.isIn, e)] | [(.notIn, e)] => e.isLabels
  | _ => false

def isCount (name : String) : Bool := name = "length" || name = "count"

mutual

def Expr.looksUp : Expr → Bool
  | .literal _ => true
  | .name n => n ≠ labelsName
  | .list items | .tuple items | .join items => allLookUp items
  | .dict entries => pairsLookUp entries
  | .member e _ => e.isLabels || e.looksUp
  | .item e i => e.isLabels && i.isPlainKey || e.looksUp && i.looksUp
  | .slice e a b c => e.looksUp && optionLooksUp a && optionLooksUp b && optionLooksUp c
  | .filter e name arguments =>
    e.isLabels && isCount name && arguments.isEmpty || e.looksUp && argumentsLookUp arguments
  | .call e arguments | .test e _ arguments => e.looksUp && argumentsLookUp arguments
  | .unary _ e => e.looksUp
  | .binary _ a b | .both a b | .either a b => a.looksUp && b.looksUp
  | .compare e others => e.looksUp && (asksForLabel others || comparisonsLookUp others)
  | .choice c y n => c.looksUp && y.looksUp && optionLooksUp n

def allLookUp : List Expr → Bool
  | [] => true
  | e :: rest => e.looksUp && allLookUp rest

def pairsLookUp : List (Expr × Expr) → Bool
  | [] => true
  | (k, v) :: rest => k.looksUp && v.looksUp && pairsLookUp rest

def optionLooksUp : Option Expr → Bool
  | none => true
  | some e => e.looksUp

def argumentsLookUp : List (Passing × Expr) → Bool
  | [] => true
  | (_, e) :: rest => e.looksUp && argumentsLookUp rest

def comparisonsLookUp : List (Comparison × Expr) → Bool
  | [] => true
  | (_, e) :: rest => e.looksUp && comparisonsLookUp rest

end

def chainLooksUp (filters : FilterChain) : Bool := filters.all fun f => argumentsLookUp f.2

/-- The labels are not given up for a parameter. -/
def parametersLookUp (parameters : Parameters) : Bool :=
  parameters.all fun p => p.1 ≠ labelsName && optionLooksUp p.2

mutual

def Target.sparesLabels : Target → Bool
  | .name n => n ≠ labelsName
  | .tuple targets => allSpareLabels targets
  | .member space _ => space ≠ labelsName

def allSpareLabels : List Target → Bool
  | [] => true
  | t :: rest => t.sparesLabels && allSpareLabels rest

end

mutual

def Node.looksUp : Node → Bool
  | .text _ | .foreign => true
  | .output e => e.looksUp
  | .branch cases otherwise => casesLookUp cases && nodesLookUp otherwise
  | .loop target subject condition body otherwise =>
    target.sparesLabels && subject.looksUp && optionLooksUp condition && nodesLookUp body &&
      nodesLookUp otherwise
  | .assign target e => target.sparesLabels && e.looksUp
  | .capture target filters body => target.sparesLabels && chainLooksUp filters && nodesLookUp body
  | .scope bindings body =>
    (bindings.all fun b => b.1.sparesLabels && b.2.looksUp) && nodesLookUp body
  | .define name parameters body =>
    name ≠ labelsName && parametersLookUp parameters && nodesLookUp body
  | .callWith parameters callee arguments body =>
    parametersLookUp parameters && callee.looksUp && argumentsLookUp arguments && nodesLookUp body
  | .filtered filters body => chainLooksUp filters && nodesLookUp body
  | .block _ body => nodesLookUp body

def nodesLookUp : List Node → Bool
  | [] => true
  | n :: rest => n.looksUp && nodesLookUp rest

def casesLookUp : List (Expr × List Node) → Bool
  | [] => true
  | (e, body) :: rest => e.looksUp && nodesLookUp body && casesLookUp rest

end

def Macro.looksUp (called : Macro) : Bool :=
  parametersLookUp called.parameters && nodesLookUp called.body

theorem allLookUp_iff {items : List Expr} : allLookUp items ↔ ∀ e ∈ items, e.looksUp := by
  induction items with
  | nil => simp [allLookUp]
  | cons e rest ih => simp [allLookUp, ih]

theorem pairsLookUp_iff {entries : List (Expr × Expr)} :
    pairsLookUp entries ↔ ∀ e ∈ entries, e.1.looksUp ∧ e.2.looksUp := by
  induction entries with
  | nil => simp [pairsLookUp]
  | cons e rest ih => simp [pairsLookUp, ih]

theorem argumentsLookUp_iff {arguments : List (Passing × Expr)} :
    argumentsLookUp arguments ↔ ∀ e ∈ arguments, e.2.looksUp := by
  induction arguments with
  | nil => simp [argumentsLookUp]
  | cons e rest ih => simp [argumentsLookUp, ih]

theorem comparisonsLookUp_iff {others : List (Comparison × Expr)} :
    comparisonsLookUp others ↔ ∀ e ∈ others, e.2.looksUp := by
  induction others with
  | nil => simp [comparisonsLookUp]
  | cons e rest ih => simp [comparisonsLookUp, ih]

theorem parametersLookUp_iff {parameters : Parameters} : parametersLookUp parameters ↔
    ∀ p ∈ parameters, p.1 ≠ labelsName ∧ optionLooksUp p.2 := by simp [parametersLookUp]

theorem nodesLookUp_iff {nodes : List Node} : nodesLookUp nodes ↔ ∀ n ∈ nodes, n.looksUp := by
  induction nodes with
  | nil => simp [nodesLookUp]
  | cons n rest ih => simp [nodesLookUp, ih]

theorem casesLookUp_iff {cases : List (Expr × List Node)} :
    casesLookUp cases ↔ ∀ e ∈ cases, e.1.looksUp ∧ nodesLookUp e.2 := by
  induction cases with
  | nil => simp [casesLookUp]
  | cons e rest ih => simp [casesLookUp, ih]

end Template
end MetricPaths
