import MetricPaths.Template.Arithmetic
import MetricPaths.Template.Check
import MetricPaths.Text.Parts

/-! The tests of templates: what can be asked about a value. -/
namespace MetricPaths
namespace Template
namespace Tests
open Op

def isText : Datum → Bool
  | .str _ _ => true
  | _ => false

/-- What has a length and can be subscripted. -/
def isSequence : Datum → Bool
  | .str _ _ | .bytes _ | .tuple _ | .list _ | .dict _ | .view _ | .range _ _ _ => true
  | _ => false

def isCallable : Datum → Bool
  | .missing _ | .builtin _ | .method _ _ | .macroValue _ _ _ | .loop _ _ _ _ _ _ => true
  | _ => false

def remainderIs (d divisor expected : Datum) : Op Bool := do
  equal (← Arithmetic.binary .modulo d divisor) expected

def hasLetters (isOne isOther : Char → Bool) (d : Datum) : Op Bool := do
  let s := (← text d).toList
  return s.any isOne && !s.any isOther

/-- Whether a name is one of a list; what cannot be a name is at fault. -/
def isNamed (names : List String) (d : Datum) : Op Bool :=
  match d with
  | .missing how => throw how.fault
  | .str s _ => return names.contains s
  | d => if d.isKey then return false else fail

/-- Tests that look at the kind of a value only. -/
def ofKind? (name : String) (d : Datum) : Option Bool :=
  match name, d with
  | "defined", .missing _ => some false
  | "defined", _ => some true
  | "undefined", .missing _ => some true
  | "undefined", _ => some false
  | "none", .none => some true
  | "none", _ => some false
  | "boolean", .bool _ => some true
  | "boolean", _ => some false
  | "true", .bool b => some b
  | "true", _ => some false
  | "false", .bool b => some !b
  | "false", _ => some false
  | "integer", .int _ => some true
  | "integer", _ => some false
  | "float", .float _ => some true
  | "float", _ => some false
  | "string", d => some (isText d)
  | "mapping", d => some d.isMapping
  | "number", d => some d.number?.isSome
  | "sequence", d => some (isSequence d)
  | "callable", d => some (isCallable d)
  | "escaped", .str _ safe => some safe
  | "escaped", _ => some false
  | _, _ => none

def comparison? : String → Option Comparison
  | "==" | "eq" | "equalto" => some .equal
  | "!=" | "ne" => some .unequal
  | "<" | "lt" | "lessthan" => some .less
  | "<=" | "le" => some .lessEqual
  | ">" | "gt" | "greaterthan" => some .greater
  | ">=" | "ge" => some .greaterEqual
  | "in" => some .isIn
  | _ => none

def isSame (a b : Datum) : Op Bool :=
  match a, b with
  | .list p, .list q | .space p, .space q | .cursor p, .cursor q => return p = q
  | .missing m, .missing n => return m = n
  | .missing _, _ | _, .missing _ => return false
  | a, b => if a.typeName = b.typeName then equal a b else return false

def ofPair (name : String) (d other : Datum) : Op Bool := do
  match comparison? name with
  | some op => Arithmetic.compare op d other
  | none =>
    match name with
    | "divisibleby" => remainderIs d other (.int 0)
    | "sameas" => isSame d other
    | _ => fail

def apply (name : String) (d : Datum) (a : Arguments) : Op Bool := do
  if !a.keywords.isEmpty then fail
  match a.positional with
  | [] =>
    match ofKind? name d with
    | some b => return b
    | none =>
      match name with
      | "odd" => remainderIs d (.int 2) (.int 1)
      | "even" => remainderIs d (.int 2) (.int 0)
      | "lower" => hasLetters Parts.isLowerLetter Parts.isUpperLetter d
      | "upper" => hasLetters Parts.isUpperLetter Parts.isLowerLetter d
      | "iterable" =>
        match d with
        | .missing .noAlternative => return true
        | .missing how => throw how.fault
        | d => return isIterable d
      | "filter" => isNamed filterNames d
      | "test" => isNamed testNames d
      | _ => fail
  | [other] => ofPair name d other
  | _ => fail

end Tests
end Template
end MetricPaths
