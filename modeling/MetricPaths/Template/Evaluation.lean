import MetricPaths.Template.Filters

/-! The meaning of expressions and statements. Evaluation is bounded: every step
into an expression, a statement or a macro takes one from the bound. -/
namespace MetricPaths
namespace Template
open Op Eval

/-- The frames in which a name is looked up, the innermost first. -/
abbrev Scope := List Nat

def Literal.datum : Literal → Datum
  | .none => .none
  | .bool b => .bool b
  | .int i => .int i
  | .float x => .float x
  | .str s => .plain s

/-- A name that nobody knows is missing. -/
def nameValue (scope : Scope) (name : String) : Eval Datum := do
  return (← find? scope name).getD (.missing (.name name))

def bindHere (scope : Scope) (name : String) (value : Datum) : Eval Unit :=
  match scope with
  | frame :: _ => Eval.bind frame name value
  | [] => fail

mutual

/-- Gives targets their values; a sequence has to have as many items as there are
targets for it. -/
def Target.assign (scope : Scope) (value : Datum) : Target → Eval Unit
  | .name name => bindHere scope name value
  | .tuple targets => do
    if !isIterable value then (do let _ ← need value; fail)
    let values ← items value
    if values.length ≠ targets.length then fail
    assignAll scope targets values
  | .member space name => do
    match ← nameValue scope space with
    | .space address =>
      let members := (← store).members? address
      write address (.space ((name, value) :: members.filter (·.1 ≠ name)))
    | _ => fail

def assignAll (scope : Scope) : List Target → List Datum → Eval Unit
  | t :: ts, v :: vs => do
    t.assign scope v
    assignAll scope ts vs
  | _, _ => return

end

/-- A member can be assigned to in a namespace only. -/
def Target.check (scope : Scope) : Target → Eval Unit
  | .member space _ => do
    match ← nameValue scope space with
    | .space _ => return
    | _ => fail
  | _ => return

def entriesOfPairs (pairs : List (Datum × Datum)) : Op (List (Datum × Datum)) :=
  pairs.foldlM (fun es (k, v) => do
    let _ ← need k
    if !k.isKey then fail
    lift (Datum.put (← store) k v es)) []

/-- The entries that arguments spell: those of a mapping or of pairs, then keywords. -/
def entriesOfArguments (a : Arguments) : Op (List (Datum × Datum)) := do
  let first ← match a.positional with
    | [] => pure []
    | [d] =>
      match d.entries? with
      | some es => pure es
      | none => do
        let pairs ← (← items (← need d)).mapM fun pair => do
          match ← items pair with
          | [k, v] => return (k, v)
          | _ => fail
        entriesOfPairs pairs
    | _ => fail
  a.keywords.foldlM (fun es (k, v) => do lift (Datum.put (← store) (.plain k) v es)) first

def rangeLimit : Nat := 100000

def rangeOf (start stop step : Int) : Op Datum :=
  if step = 0 || Datum.rangeCount start stop step > rangeLimit then fail
  else return .range start stop step

def Builtin.call (f : Builtin) (a : Arguments) : Op Datum := do
  match f with
  | .escape =>
    match ← lift (a.bind 1 ["value"]) with
    | [some d] => Filters.escapeSegment d
    | _ => fail
  | .range =>
    if !a.keywords.isEmpty then fail
    match ← a.positional.mapM (fun d => do
        match d.integer? with
        | some i => return i
        | none => fail) with
    | [stop] => rangeOf 0 stop 1
    | [start, stop] => rangeOf start stop 1
    | [start, stop, step] => rangeOf start stop step
    | _ => fail
  | .dict => return .dict (← entriesOfArguments a)
  | .namespace => do
    let es ← entriesOfArguments a
    let members := es.filterMap fun (k, v) => match k with
      | .str s _ => some (s, v)
      | _ => none
    return .space (← alloc (.space members.reverse))
  | .other _ => fail

/-- Gives a macro who calls it, if it asks; what else is passed by name is left. -/
def bindCaller (frame : Nat) (asks : Bool) (rest : List (String × Datum)) :
    Eval (List (String × Datum)) := do
  if asks then
    let caller := match rest.lookup "caller" with
      | none | some .none => .missing .unstated
      | some d => d
    Eval.bind frame "caller" caller
    return rest.filter (·.1 ≠ "caller")
  else return rest

/-- Gives a macro what is passed beyond its parameters, if it asks; if not, there may be
nothing of the kind. -/
def bindBeyond (frame : Nat) (name : String) (asks isEmpty : Bool) (value : Datum) : Eval Unit :=
  if asks then Eval.bind frame name value
  else if isEmpty then return
  else fail

/-- Gives the parameters of a macro what is passed for them, without the defaults.
What is passed beyond them goes into `varargs` and `kwargs` if the macro reads these. -/
def bindParameters (frame : Nat) (reads : List String) (parameters : Parameters) (a : Arguments) :
    Eval (List (String × Option Expr)) := do
  let names := parameters.map (·.1)
  let open_ := parameters.drop a.positional.length
  for (name, d) in names.zip a.positional do Eval.bind frame name d
  let missing ← open_.filterMapM fun (name, fallback) => do
    match a.keywords.lookup name with
    | some d => do
      Eval.bind frame name d
      return none
    | none => return some (name, fallback)
  let asks (name : String) : Bool := reads.contains name && !names.contains name
  let rest ← bindCaller frame (asks "caller")
    (a.keywords.filter fun k => !(open_.map (·.1)).contains k.1)
  bindBeyond frame "kwargs" (asks "kwargs") rest.isEmpty
    (.dict (rest.map fun (k, v) => (.plain k, v)))
  let more := a.positional.drop names.length
  bindBeyond frame "varargs" (asks "varargs") more.isEmpty (.tuple more)
  return missing

/-- How many items of a list that changes on the way are gone through. -/
def growthLimit : Nat := 1000000

/-- Goes through a list by position; what is appended on the way is reached too. -/
def throughList (address : Nat) (each : Nat → List Datum → Datum → Eval String) :
    Nat → Nat → Eval (List String)
  | 0, _ => fail
  | limit + 1, i => do
    let found := (← store).list? address
    match found[i]? with
    | none => return []
    | some d =>
      let s ← each i found d
      return s :: (← throughList address each limit (i + 1))

def throughItems {α : Type} (each : Nat → List Datum → Datum → Eval α) (found : List Datum)
    (fault : Option RenderFault) : Eval (List α) := do
  let parts ← found.zipIdx.mapM fun (d, i) => each i found d
  match fault with
  | some fault => throw fault
  | none => return parts

/-- What a loop writes for the items of a value, those only that pass if there is something to
pass. A loop that looks at its place knows how many pass before it writes for the first. -/
def throughLoop (looks : Bool) (each : Nat → List Datum → Datum → Eval String)
    (passes : Option (Datum → Eval Bool)) (d : Datum) : Eval (List String) := do
  match passes, d with
  | none, .list address => throughList address each growthLimit 0
  | none, d => do
    let (found, fault) ← itemsAndFault d
    throughItems each found fault
  | some passes, d => do
    let (found, fault) ← itemsAndFault d
    if looks then do
      let (kept, inner) ← collect (fun item => do return if ← passes item then [item] else []) found
      throughItems each kept (inner.or fault)
    else do
      let parts ← throughItems (fun i found item => do
        if ← passes item then return [← each i found item] else return []) found fault
      return parts.flatten

def loopAt (i : Nat) (found : List Datum) : Datum :=
  let at? (j : Nat) : Datum := (found[j]?).getD (.missing .unstated)
  let before := if i = 0 then .missing .unstated else at? (i - 1)
  .loop i (some found.length) (i + 1 = found.length) before (at? (i + 1)) 0

mutual

def evaluate : Nat → Scope → Expr → Eval Datum
  | 0, _, _ => fail
  | n + 1, scope, e =>
    match e with
    | .literal l => return l.datum
    | .name name => nameValue scope name
    | .list members => do newList (← members.mapM (evaluate n scope))
    | .tuple members => do return .tuple (← members.mapM (evaluate n scope))
    | .dict entries => do
      let pairs ← entries.mapM fun (k, v) => do
        return (← evaluate n scope k, ← evaluate n scope v)
      return .dict (← entriesOfPairs pairs)
    | .member of name => do Access.member (← evaluate n scope of) name
    | .item of index => do
      let d ← evaluate n scope of
      Access.item d (← evaluate n scope index)
    | .slice of start stop step => do
      let d ← evaluate n scope of
      let start ← optional n scope start
      let stop ← optional n scope stop
      Access.slice d start stop (← optional n scope step)
    | .call callee arguments => do
      let f ← evaluate n scope callee
      call n f (← passed n scope arguments)
    | .filter of name arguments => do
      let d ← evaluate n scope of
      Filters.apply name d (← passed n scope arguments)
    | .test of name arguments => do
      let d ← evaluate n scope of
      return .bool (← Tests.apply name d (← passed n scope arguments))
    | .unary op operand => do Arithmetic.unary op (← evaluate n scope operand)
    | .binary op left right => do
      let a ← evaluate n scope left
      Arithmetic.binary op a (← evaluate n scope right)
    | .both left right => do
      let a ← evaluate n scope left
      if ← truth a then evaluate n scope right else return a
    | .either left right => do
      let a ← evaluate n scope left
      if ← truth a then return a else evaluate n scope right
    | .join parts => do
      let values ← parts.mapM (evaluate n scope)
      return .plain (String.join (← values.mapM fun d => text d))
    | .compare first others => do
      let a ← evaluate n scope first
      let (_, holds) ← others.foldlM (fun (acc : Datum × Bool) (op, e) => do
        if acc.2 then
          let b ← evaluate n scope e
          return (b, ← Arithmetic.compare op acc.1 b)
        else return acc) (a, true)
      return .bool holds
    | .choice condition yes no => do
      if ← truth (← evaluate n scope condition) then evaluate n scope yes
      else match no with
        | some e => evaluate n scope e
        | none => return .missing .noAlternative

def optional : Nat → Scope → Option Expr → Eval Datum
  | 0, _, _ => fail
  | n + 1, scope, e =>
    match e with
    | none => return .none
    | some e => evaluate n scope e

def passed : Nat → Scope → List (Passing × Expr) → Eval Arguments
  | 0, _, _ => fail
  | n + 1, scope, arguments => do
    let positional ← arguments.mapM fun (how, e) => do
      match how with
      | .positional => return [← evaluate n scope e]
      | .spread => items (← need (← evaluate n scope e))
      | _ => return []
    let keywords ← arguments.mapM fun (how, e) => do
      match how with
      | .keyword name => return [(name, ← evaluate n scope e)]
      | .spreadKeywords =>
        match (← need (← evaluate n scope e)).entries? with
        | some es => es.mapM fun (k, v) => match k with
          | .str s _ => return (s, v)
          | _ => fail
        | none => fail
      | _ => return []
    let keywords := keywords.flatten
    if keywords.length ≠ (keywords.map (·.1)).eraseDups.length then fail
    return ⟨positional.flatten, keywords⟩

def call : Nat → Datum → Arguments → Eval Datum
  | 0, _, _ => fail
  | n + 1, f, a =>
    match f with
    | .missing how => throw how.fault
    | .builtin f => f.call a
    | .method receiver name => Methods.call receiver name a
    | .macroValue _ home index => do
      match ← macro? home index with
      | some called => do
        let frame ← newFrame
        let missing ← bindParameters frame (namesOfNodes called.body) called.parameters a
        for (name, fallback) in missing do
          match fallback with
          | some e => Eval.bind frame name (← evaluate n (frame :: called.scope) e)
          | none => Eval.bind frame name (.missing .unstated)
        return .plain (← runAll n (frame :: called.scope) called.body)
      | none => fail
    | _ => fail

def throughFilters : Nat → Scope → FilterChain → Datum → Eval Datum
  | 0, _, _, _ => fail
  | n + 1, scope, filters, d =>
    filters.foldlM (fun d (name, arguments) => do Filters.apply name d (← passed n scope arguments)) d

def runAll : Nat → Scope → List Node → Eval String
  | 0, _, _ => fail
  | n + 1, scope, nodes => do return String.join (← nodes.mapM (run n scope))

def run : Nat → Scope → Node → Eval String
  | 0, _, _ => fail
  | n + 1, scope, node =>
    match node with
    | .text s => return s
    | .output e => do text (← evaluate n scope e)
    | .branch cases otherwise => do
      let chosen ← cases.foldlM (fun (acc : Option (List Node)) (condition, body) => do
        match acc with
        | some body => return some body
        | none => return if ← truth (← evaluate n scope condition) then some body else none) none
      runAll n scope (chosen.getD otherwise)
    | .loop target subject condition body otherwise => do
      let d ← evaluate n scope subject
      let looks := (namesOfNodes body).contains "loop"
      let each (i : Nat) (found : List Datum) (item : Datum) : Eval String := do
        let frame ← newFrame
        if looks then Eval.bind frame "loop" (loopAt i found)
        target.assign (frame :: scope) item
        runAll n (frame :: scope) body
      let passes := condition.map fun condition item => do
        let frame ← newFrame
        target.assign (frame :: scope) item
        truth (← evaluate n (frame :: scope) condition)
      let parts ← throughLoop looks each passes d
      if parts.isEmpty then
        let frame ← newFrame
        runAll n (frame :: scope) otherwise
      else return String.join parts
    | .assign target value => do
      target.check scope
      target.assign scope (← evaluate n scope value)
      return ""
    | .capture target filters body => do
      let frame ← newFrame
      let s ← runAll n (frame :: scope) body
      target.check scope
      target.assign scope (← throughFilters n (frame :: scope) filters (.plain s))
      return ""
    | .scope bindings body => do
      let frame ← newFrame
      for (target, e) in bindings do
        target.assign (frame :: scope) (← evaluate n scope e)
      runAll n (frame :: scope) body
    | .define name parameters body => do
      bindHere scope name (← newMacro (scope.headD 0) name ⟨parameters, body, scope⟩)
      return ""
    | .callWith parameters callee arguments body => do
      let caller ← newMacro (scope.headD 0) "caller" ⟨parameters, body, scope⟩
      let f ← evaluate n scope callee
      let a ← passed n scope arguments
      text (← call n f ⟨a.positional, a.keywords ++ [("caller", caller)]⟩)
    | .filtered filters body => do
      let frame ← newFrame
      let s ← runAll n (frame :: scope) body
      text (← throughFilters n (frame :: scope) filters (.plain s))
    | .block _ body => do
      let frame ← newFrame
      runAll n (frame :: scope.drop (scope.length - 1)) body
    | .foreign => fail

end

end Template
end MetricPaths
