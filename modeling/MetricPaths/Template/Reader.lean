import MetricPaths.Template.Syntax
import MetricPaths.Template.Token

/-! Reading a template from its tokens. -/
namespace MetricPaths
namespace Template
namespace Grammar

abbrev Reading := StateT (List Token) (Except Fault)

namespace Reading

def fail {α : Type} : Reading α := throw .grammar

def peek : Reading (Option Token) := do return (← get).head?

def second : Reading (Option Token) := do return (← get)[1]?

def next : Reading (Option Token) := do
  let s ← get
  set s.tail
  return s.head?

def isNext (t : Token) : Reading Bool := do return (← peek) = some t

def take (t : Token) : Reading Bool := do
  if ← isNext t then
    let _ ← next
    return true
  else return false

def expect (t : Token) : Reading Unit := do
  unless ← take t do fail

def takeSign (s : String) : Reading Bool := take (.sign s)

def expectSign (s : String) : Reading Unit := expect (.sign s)

def takeWord (s : String) : Reading Bool := take (.name s)

def isSign (s : String) : Reading Bool := isNext (.sign s)

def expectName : Reading String := do
  match ← next with
  | some (.name n) => return n
  | _ => fail

def isAnyWord (words : List String) : Reading Bool := do
  match ← peek with
  | some (.name n) => return words.contains n
  | _ => return false

end Reading
open Reading

def constantNames : List String := ["true", "false", "none", "True", "False", "None"]

def constant? (name : String) : Option Literal :=
  if name = "true" || name = "True" then some (.bool true)
  else if name = "false" || name = "False" then some (.bool false)
  else if name = "none" || name = "None" then some .none
  else none

def signMark : Reading (Option Unary) := do
  if ← takeSign "-" then return some .negate
  if ← takeSign "+" then return some .plus
  return none

/-- String literals that follow each other are one. -/
def strings : Nat → String → Reading String
  | 0, acc => return acc
  | fuel + 1, acc => do
    match ← peek with
    | some (.str s) =>
      let _ ← next
      strings fuel (acc ++ s)
    | _ => return acc

def dotted : Nat → String → Reading String
  | 0, acc => return acc
  | fuel + 1, acc => do
    if ← takeSign "." then
      let part ← expectName
      dotted fuel (acc ++ "." ++ part)
    else return acc

/-- The target an expression can be: names that are no constants. -/
def target? : Nat → Expr → Option Target
  | 0, _ => none
  | fuel + 1, e =>
    match e with
    | .name n => some (.name n)
    | .tuple items => (items.mapM (target? fuel)).map .tuple
    | _ => none

def comparisonSigns : List (String × Comparison) :=
  [("==", .equal), ("!=", .unequal), ("<", .less), ("<=", .lessEqual), (">", .greater),
    (">=", .greaterEqual)]

/-- What can follow the name of a test as its only argument. -/
def beginsArgument : Option Token → Bool
  | some (.name n) => n != "else" && n != "or" && n != "and"
  | some (.str _) | some (.int _) | some (.float _) => true
  | some (.sign s) => s = "[" || s = "\x7b"
  | _ => false

/-- The arguments of a call keep an order: positional ones, keywords, a sequence to
be spread, keywords to be spread. -/
def canFollow (before : List (Passing × Expr)) : Passing → Bool
  | .positional => before.all fun p => p.1 = .positional
  | .keyword _ => before.all fun p => p.1 ≠ .spreadKeywords
  | .spread => before.all fun p => p.1 ≠ .spread && p.1 ≠ .spreadKeywords
  | .spreadKeywords => before.all fun p => p.1 ≠ .spreadKeywords

inductive SequenceKind where
  | expression
  | withoutChoice
  | target
deriving Repr, DecidableEq

mutual

def expression (fuel : Nat) : Reading Expr :=
  match fuel with
  | 0 => fail
  | fuel + 1 => do
    let value ← disjunction fuel
    choices fuel value

/-- Any number of conditions behind a value; only the last has an alternative. -/
def choices (fuel : Nat) (value : Expr) : Reading Expr :=
  match fuel with
  | 0 => fail
  | fuel + 1 => do
    if ← takeWord "if" then
      let condition ← disjunction fuel
      let other ← if ← takeWord "else" then some <$> expression fuel else pure none
      choices fuel (.choice condition value other)
    else return value

def disjunction (fuel : Nat) : Reading Expr :=
  match fuel with
  | 0 => fail
  | fuel + 1 => do
    let first ← conjunction fuel
    moreDisjuncts fuel first

def moreDisjuncts (fuel : Nat) (left : Expr) : Reading Expr :=
  match fuel with
  | 0 => fail
  | fuel + 1 => do
    if ← takeWord "or" then
      let right ← conjunction fuel
      moreDisjuncts fuel (.either left right)
    else return left

def conjunction (fuel : Nat) : Reading Expr :=
  match fuel with
  | 0 => fail
  | fuel + 1 => do
    let first ← negation fuel
    moreConjuncts fuel first

def moreConjuncts (fuel : Nat) (left : Expr) : Reading Expr :=
  match fuel with
  | 0 => fail
  | fuel + 1 => do
    if ← takeWord "and" then
      let right ← negation fuel
      moreConjuncts fuel (.both left right)
    else return left

def negation (fuel : Nat) : Reading Expr :=
  match fuel with
  | 0 => fail
  | fuel + 1 => do
    if ← takeWord "not" then
      return .unary .not (← negation fuel)
    else comparison fuel

def comparison (fuel : Nat) : Reading Expr :=
  match fuel with
  | 0 => fail
  | fuel + 1 => do
    let first ← sum fuel
    let others ← comparisons fuel
    match others with
    | [] => return first
    | _ => return .compare first others

def comparisons (fuel : Nat) : Reading (List (Comparison × Expr)) :=
  match fuel with
  | 0 => fail
  | fuel + 1 => do
    let op? : Option Comparison ← do
      match ← peek, ← second with
      | some (.sign s), _ =>
        match comparisonSigns.lookup s with
        | some op =>
          let _ ← next
          pure (some op)
        | none => pure none
      | some (.name "in"), _ =>
        let _ ← next
        pure (some .isIn)
      | some (.name "not"), some (.name "in") =>
        let _ ← next
        let _ ← next
        pure (some .notIn)
      | _, _ => pure none
    match op? with
    | none => return []
    | some op =>
      let operand ← sum fuel
      return (op, operand) :: (← comparisons fuel)

def sum (fuel : Nat) : Reading Expr :=
  match fuel with
  | 0 => fail
  | fuel + 1 => do
    let first ← joined fuel
    moreTerms fuel first

def moreTerms (fuel : Nat) (left : Expr) : Reading Expr :=
  match fuel with
  | 0 => fail
  | fuel + 1 => do
    if ← takeSign "+" then
      moreTerms fuel (.binary .add left (← joined fuel))
    else if ← takeSign "-" then
      moreTerms fuel (.binary .subtract left (← joined fuel))
    else return left

def joined (fuel : Nat) : Reading Expr :=
  match fuel with
  | 0 => fail
  | fuel + 1 => do
    let first ← product fuel
    let others ← moreJoined fuel
    match others with
    | [] => return first
    | _ => return .join (first :: others)

def moreJoined (fuel : Nat) : Reading (List Expr) :=
  match fuel with
  | 0 => fail
  | fuel + 1 => do
    if ← takeSign "~" then
      let part ← product fuel
      return part :: (← moreJoined fuel)
    else return []

def product (fuel : Nat) : Reading Expr :=
  match fuel with
  | 0 => fail
  | fuel + 1 => do
    let first ← power fuel
    moreFactors fuel first

def moreFactors (fuel : Nat) (left : Expr) : Reading Expr :=
  match fuel with
  | 0 => fail
  | fuel + 1 => do
    if ← takeSign "*" then moreFactors fuel (.binary .multiply left (← power fuel))
    else if ← takeSign "/" then moreFactors fuel (.binary .divide left (← power fuel))
    else if ← takeSign "//" then moreFactors fuel (.binary .floorDivide left (← power fuel))
    else if ← takeSign "%" then moreFactors fuel (.binary .modulo left (← power fuel))
    else return left

def power (fuel : Nat) : Reading Expr :=
  match fuel with
  | 0 => fail
  | fuel + 1 => do
    let first ← unary true fuel
    morePowers fuel first

/-- Powers are grouped from the left. -/
def morePowers (fuel : Nat) (left : Expr) : Reading Expr :=
  match fuel with
  | 0 => fail
  | fuel + 1 => do
    if ← takeSign "**" then morePowers fuel (.binary .power left (← unary true fuel))
    else return left

/-- A sign binds tighter than a filter and weaker than an access. -/
def unary (withFilter : Bool) (fuel : Nat) : Reading Expr :=
  match fuel with
  | 0 => fail
  | fuel + 1 => do
    let operand ← match ← signMark with
      | some op => Expr.unary op <$> unary false fuel
      | none => primary fuel
    let operand ← accesses fuel operand
    if withFilter then filters fuel operand else return operand

def primary (fuel : Nat) : Reading Expr :=
  match fuel with
  | 0 => fail
  | fuel + 1 => do
    match ← next with
    | some (.name n) =>
      match constant? n with
      | some c => return .literal c
      | none => return .name n
    | some (.str s) => return .literal (.str (← strings fuel s))
    | some (.int n) => return .literal (.int n)
    | some (.float x) => return .literal (.float x)
    | some (.sign "(") =>
      let value ← sequence fuel .expression [] true
      expectSign ")"
      return value
    | some (.sign "[") => return .list (← listItems fuel [])
    | some (.sign "\x7b") => return .dict (← dictEntries fuel [])
    | _ => fail

/-- One value, or a tuple if commas follow. Nothing at all is a tuple between
parentheses only. -/
def sequence (fuel : Nat) (kind : SequenceKind) (stopWords : List String) (parenthesised : Bool) :
    Reading Expr :=
  match fuel with
  | 0 => fail
  | fuel + 1 => do
    let (items, isTuple) ← sequenceItems fuel kind stopWords []
    if isTuple then return .tuple items
    else
      match items with
      | [one] => return one
      | _ => if parenthesised then return .tuple items else fail

def sequenceItems (fuel : Nat) (kind : SequenceKind) (stopWords : List String) (acc : List Expr) :
    Reading (List Expr × Bool) :=
  match fuel with
  | 0 => fail
  | fuel + 1 => do
    let atEnd ← do
      match ← peek with
      | some .closeValue | some .closeTag | some (.sign ")") => pure true
      | some (.name n) => pure (stopWords.contains n)
      | _ => pure false
    if atEnd then return (acc.reverse, !acc.isEmpty)
    else
      let item ← match kind with
        | .expression => expression fuel
        | .withoutChoice => disjunction fuel
        | .target => primary fuel
      if ← takeSign "," then sequenceItems fuel kind stopWords (item :: acc)
      else return ((item :: acc).reverse, !acc.isEmpty)

def listItems (fuel : Nat) (acc : List Expr) : Reading (List Expr) :=
  match fuel with
  | 0 => fail
  | fuel + 1 => do
    if ← takeSign "]" then return acc.reverse
    else
      let item ← expression fuel
      if ← takeSign "," then listItems fuel (item :: acc)
      else
        expectSign "]"
        return (item :: acc).reverse

def dictEntries (fuel : Nat) (acc : List (Expr × Expr)) : Reading (List (Expr × Expr)) :=
  match fuel with
  | 0 => fail
  | fuel + 1 => do
    if ← takeSign "\x7d" then return acc.reverse
    else
      let key ← expression fuel
      expectSign ":"
      let value ← expression fuel
      if ← takeSign "," then dictEntries fuel ((key, value) :: acc)
      else
        expectSign "\x7d"
        return ((key, value) :: acc).reverse

/-- Members, subscripts and calls behind a value. -/
def accesses (fuel : Nat) (value : Expr) : Reading Expr :=
  match fuel with
  | 0 => fail
  | fuel + 1 => do
    if ← takeSign "." then
      match ← next with
      | some (.name n) => accesses fuel (.member value n)
      | some (.int n) => accesses fuel (.item value (.literal (.int n)))
      | _ => fail
    else if ← takeSign "[" then
      let value ← subscript fuel value
      accesses fuel value
    else if ← isSign "(" then
      let arguments ← callArguments fuel
      accesses fuel (.call value arguments)
    else return value

def subscript (fuel : Nat) (value : Expr) : Reading Expr :=
  match fuel with
  | 0 => fail
  | fuel + 1 => do
    match ← subscriptParts fuel [] with
    | [.inl index] => return .item value index
    | [.inr (start, stop, step)] => return .slice value start stop step
    | parts =>
      match parts.mapM fun p => p.getLeft? with
      | some items => return .item value (.tuple items)
      | none => fail

def subscriptParts (fuel : Nat) (acc : List (Expr ⊕ Option Expr × Option Expr × Option Expr)) :
    Reading (List (Expr ⊕ Option Expr × Option Expr × Option Expr)) :=
  match fuel with
  | 0 => fail
  | fuel + 1 => do
    if ← takeSign "]" then return acc.reverse
    else
      let part ← subscriptPart fuel
      if ← takeSign "," then
        if ← isSign "]" then fail
        subscriptParts fuel (part :: acc)
      else
        expectSign "]"
        return (part :: acc).reverse

def subscriptPart (fuel : Nat) : Reading (Expr ⊕ Option Expr × Option Expr × Option Expr) :=
  match fuel with
  | 0 => fail
  | fuel + 1 => do
    let start ← if ← isSign ":" then pure none else some <$> expression fuel
    if ← takeSign ":" then
      let stop ← if (← isSign ":") || (← isSign "]") || (← isSign ",") then pure none
        else some <$> expression fuel
      let step ← if ← takeSign ":" then
          if (← isSign "]") || (← isSign ",") then pure none else some <$> expression fuel
        else pure none
      return .inr (start, stop, step)
    else
      match start with
      | some index => return .inl index
      | none => fail

def callArguments (fuel : Nat) : Reading (List (Passing × Expr)) :=
  match fuel with
  | 0 => fail
  | fuel + 1 => do
    expectSign "("
    moreArguments fuel []

def moreArguments (fuel : Nat) (acc : List (Passing × Expr)) : Reading (List (Passing × Expr)) :=
  match fuel with
  | 0 => fail
  | fuel + 1 => do
    if ← takeSign ")" then return acc.reverse
    else
      let passing ← do
        match ← peek, ← second with
        | some (.sign "*"), _ =>
          let _ ← next
          pure Passing.spread
        | some (.sign "**"), _ =>
          let _ ← next
          pure Passing.spreadKeywords
        | some (.name n), some (.sign "=") =>
          let _ ← next
          let _ ← next
          pure (Passing.keyword n)
        | _, _ => pure Passing.positional
      if !canFollow acc passing then fail
      let value ← expression fuel
      if ← takeSign "," then moreArguments fuel ((passing, value) :: acc)
      else
        expectSign ")"
        return ((passing, value) :: acc).reverse

def filters (fuel : Nat) (value : Expr) : Reading Expr :=
  match fuel with
  | 0 => fail
  | fuel + 1 => do
    if ← takeSign "|" then
      let (name, arguments) ← filterUse fuel
      filters fuel (.filter value name arguments)
    else if ← takeWord "is" then
      let value ← testUse fuel value
      filters fuel value
    else if ← isSign "(" then
      let arguments ← callArguments fuel
      filters fuel (.call value arguments)
    else return value

def filterUse (fuel : Nat) : Reading (String × List (Passing × Expr)) :=
  match fuel with
  | 0 => fail
  | fuel + 1 => do
    let first ← expectName
    let name ← dotted fuel first
    let arguments ← if ← isSign "(" then callArguments fuel else pure []
    return (name, arguments)

def testUse (fuel : Nat) (value : Expr) : Reading Expr :=
  match fuel with
  | 0 => fail
  | fuel + 1 => do
    let negated ← takeWord "not"
    let first ← expectName
    let name ← dotted fuel first
    let arguments ← if ← isSign "(" then callArguments fuel
      else if beginsArgument (← peek) then
        if ← isNext (.name "is") then fail
        let argument ← primary fuel
        let argument ← accesses fuel argument
        pure [(Passing.positional, argument)]
      else pure []
    let node := Expr.test value name arguments
    return if negated then .unary .not node else node

end

def filterChain (fuel : Nat) : Nat → Bool → FilterChain → Reading FilterChain
  | 0, _, acc => return acc.reverse
  | n + 1, atStart, acc => do
    let goesOn ← if atStart then pure true else takeSign "|"
    if goesOn then
      let use ← filterUse fuel
      filterChain fuel n false (use :: acc)
    else return acc.reverse

def nameTarget : Reading String := do
  let n ← expectName
  if constantNames.contains n then fail else return n

/-- A target, which `member` allows to be a member of a namespace. -/
def target (fuel : Nat) (member : Bool) (stopWords : List String) : Reading Target := do
  if member && (← second) = some (.sign ".") then
    let space ← expectName
    expectSign "."
    return .member space (← expectName)
  else
    let e ← sequence fuel .target stopWords false
    match target? fuel e with
    | some t => return t
    | none => fail

/-- The parameters of a macro; those with a default come last. -/
def parameters (fuel : Nat) : Nat → Parameters → Reading Parameters
  | 0, _ => fail
  | n + 1, acc => do
    if ← takeSign ")" then return acc.reverse
    else
      if !acc.isEmpty then expectSign ","
      let name ← nameTarget
      if ← takeSign "=" then
        let value ← expression fuel
        parameters fuel n ((name, some value) :: acc)
      else if acc.any (·.2.isSome) then fail
      else parameters fuel n ((name, none) :: acc)

def printed (fuel : Nat) : Nat → List Node → Reading (List Node)
  | 0, _ => fail
  | n + 1, acc => do
    if ← isNext .closeTag then return acc.reverse
    else
      if !acc.isEmpty then expectSign ","
      let value ← expression fuel
      printed fuel n (.output value :: acc)

def bindings (fuel : Nat) : Nat → List (Target × Expr) → Reading (List (Target × Expr))
  | 0, _ => fail
  | n + 1, acc => do
    if ← isNext .closeTag then return acc.reverse
    else
      if !acc.isEmpty then expectSign ","
      let t ← target fuel false []
      expectSign "="
      let value ← expression fuel
      bindings fuel n ((t, value) :: acc)

/-- The rest of a tag whose statement cannot be carried out. -/
def skipTag : Nat → Reading Unit
  | 0 => return
  | n + 1 => do
    match ← peek with
    | none | some .closeTag => return
    | _ =>
      let _ ← next
      skipTag n

mutual

def nodes (fuel : Nat) (stopWords : List String) (acc : List Node) : Reading (List Node) :=
  match fuel with
  | 0 => fail
  | fuel + 1 => do
    match ← next with
    | none => return acc.reverse
    | some (.text s) => nodes fuel stopWords (.text s :: acc)
    | some .openValue =>
      let value ← sequence fuel .expression [] false
      expect .closeValue
      nodes fuel stopWords (.output value :: acc)
    | some .openTag =>
      if ← isAnyWord stopWords then return acc.reverse
      else
        let found ← statement fuel
        expect .closeTag
        nodes fuel stopWords (found.reverse ++ acc)
    | _ => fail

def body (fuel : Nat) (stopWords : List String) : Reading (List Node × String) :=
  match fuel with
  | 0 => fail
  | fuel + 1 => do
    let _ ← takeSign ":"
    expect .closeTag
    let inner ← nodes fuel stopWords []
    let word ← expectName
    return (inner, word)

def statement (fuel : Nat) : Reading (List Node) :=
  match fuel with
  | 0 => fail
  | fuel + 1 => do
    let word ← expectName
    if word = "if" then
      let (cases, otherwise) ← branches fuel
      return [.branch cases otherwise]
    else if word = "for" then
      let t ← target fuel false ["in"]
      unless ← takeWord "in" do fail
      let subject ← sequence fuel .withoutChoice ["recursive"] false
      let condition ← if ← takeWord "if" then some <$> expression fuel else pure none
      let _ ← takeWord "recursive"
      let (inner, stop) ← body fuel ["endfor", "else"]
      let otherwise ← if stop = "else" then Prod.fst <$> body fuel ["endfor"] else pure []
      return [.loop t subject condition inner otherwise]
    else if word = "set" then
      let t ← target fuel true []
      if ← takeSign "=" then
        return [.assign t (← sequence fuel .expression [] false)]
      else
        let chain ← filterChain fuel fuel false []
        let (inner, _) ← body fuel ["endset"]
        return [.capture t chain inner]
    else if word = "with" then
      let bound ← bindings fuel fuel []
      let (inner, _) ← body fuel ["endwith"]
      return [.scope bound inner]
    else if word = "macro" then
      let name ← nameTarget
      expectSign "("
      let params ← parameters fuel fuel []
      let (inner, _) ← body fuel ["endmacro"]
      return [.define name params inner]
    else if word = "call" then
      let params ← if ← takeSign "(" then parameters fuel fuel [] else pure []
      match ← expression fuel with
      | .call callee arguments =>
        let (inner, _) ← body fuel ["endcall"]
        return [.callWith params callee arguments inner]
      | _ => fail
    else if word = "filter" then
      let chain ← filterChain fuel fuel true []
      let (inner, _) ← body fuel ["endfilter"]
      return [.filtered chain inner]
    else if word = "print" then printed fuel fuel []
    else if word = "autoescape" then
      let _ ← expression fuel
      let (inner, _) ← body fuel ["endautoescape"]
      return [.scope [] inner]
    else if word = "block" then
      let name ← expectName
      let _ ← takeWord "scoped"
      let _ ← takeWord "required"
      let (inner, _) ← body fuel ["endblock"]
      let _ ← takeWord name
      return [.block name inner]
    else if word = "extends" || word = "include" || word = "import" || word = "from" then
      let _ ← expression fuel
      skipTag fuel
      return [.foreign]
    else throw (.unknownTag word)

def branches (fuel : Nat) : Reading (List (Expr × List Node) × List Node) :=
  match fuel with
  | 0 => fail
  | fuel + 1 => do
    let condition ← sequence fuel .withoutChoice [] false
    let (inner, stop) ← body fuel ["elif", "else", "endif"]
    if stop = "elif" then
      let (cases, otherwise) ← branches fuel
      return ((condition, inner) :: cases, otherwise)
    else if stop = "else" then
      let (otherwise, _) ← body fuel ["endif"]
      return ([(condition, inner)], otherwise)
    else return ([(condition, inner)], [])

end

/-- The nodes of a template. An expression goes at most fifteen levels down for each
token, so the bound is never met. -/
def parse (tokens : List Token) : Except Fault (List Node) := do
  let (found, _) ← (nodes (20 * tokens.length + 50) [] []).run tokens
  return found

end Grammar
end Template
end MetricPaths
