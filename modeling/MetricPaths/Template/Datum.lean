import MetricPaths.Libraries
import MetricPaths.Template.Syntax

/-! Values while a template is rendered. Lists, namespaces and cursors can change,
so a value holds only the address of one; what stands at the address is kept in the
store. -/
namespace MetricPaths
namespace Template

/-- How a value came to be missing. A missing value is harmless until it is used. -/
inductive Missing where
  | name (name : String)
  | member (owner name : String)
  | element (owner literal : String)
  | guarded (owner name : String)
  /-- Nothing was left to choose from, or nothing was passed. -/
  | unstated
  /-- A choice without an alternative; its text is empty. -/
  | noAlternative
deriving Repr, DecidableEq

inductive Builtin where
  | escape
  | range
  | dict
  | namespace
  | other (name : String)
deriving Repr, DecidableEq

inductive ListingKind where
  | keys
  | values
  | items
deriving Repr, DecidableEq

/-- `safe` marks a text whose special characters are already written for markup. -/
inductive Datum where
  | missing (how : Missing)
  | none
  | bool (b : Bool)
  | int (i : Int)
  | float (x : Float)
  | str (s : String) (safe : Bool)
  | bytes (data : List UInt8)
  | day (d : Day)
  | moment (m : Moment)
  | tuple (items : List Datum)
  | dict (entries : List (Datum × Datum))
  | view (entries : List (Datum × Datum))
  | set (items : List Datum)
  | list (address : Nat)
  | space (address : Nat)
  | cursor (address : Nat)
  | range (start stop step : Int)
  | listing (kind : ListingKind) (items : List Datum)
  | builtin (f : Builtin)
  | method (receiver : Datum) (name : String)
  /-- A macro is kept by the frame in which it was defined. -/
  | macroValue (name : String) (frame index : Nat)
  | loop (index : Nat) (count : Option Nat) (isLast : Bool) (before after : Datum) (depth : Nat)
deriving Inhabited

def Missing.fault : Missing → RenderFault
  | .name n => .told (Quoted.text n ++ " is undefined")
  | .member owner n => .told (Quoted.text owner ++ " has no attribute " ++ Quoted.text n)
  | .element owner literal => .told (owner ++ " has no element " ++ literal)
  | .guarded owner n =>
    .told ("access to attribute " ++ Quoted.text n ++ " of " ++ Quoted.text owner ++ " object is unsafe.")
  | .unstated | .noAlternative => .untold

/-- What stands at an address. A cursor gives each of its items once, and then, if
its source was at fault, that fault. -/
inductive Cell where
  | list (items : List Datum)
  | space (members : List (String × Datum))
  | cursor (items : List Datum) (fault : Option RenderFault)
deriving Inhabited

abbrev Store := Array Cell

abbrev Outcome := Except RenderFault

namespace Store

def list? (store : Store) (address : Nat) : List Datum :=
  match store[address]? with
  | some (.list items) => items
  | _ => []

def members? (store : Store) (address : Nat) : List (String × Datum) :=
  match store[address]? with
  | some (.space members) => members
  | _ => []

end Store

namespace Datum

def plain (s : String) : Datum := .str s false

def typeName : Datum → String
  | .missing .noAlternative => "Undefined"
  | .missing _ => "StrictUndefined"
  | .none => "NoneType"
  | .bool _ => "bool"
  | .int _ => "int"
  | .float _ => "float"
  | .str _ false => "str"
  | .str _ true => "Markup"
  | .bytes _ => "bytes"
  | .day _ => "date"
  | .moment _ => "datetime"
  | .tuple _ => "tuple"
  | .dict _ => "dict"
  | .view _ => "mappingproxy"
  | .set _ => "set"
  | .list _ => "list"
  | .space _ => "Namespace"
  | .cursor _ => "generator"
  | .range _ _ _ => "range"
  | .listing .keys _ => "dict_keys"
  | .listing .values _ => "dict_values"
  | .listing .items _ => "dict_items"
  | .builtin _ => "function"
  | .method _ _ => "builtin_function_or_method"
  | .macroValue _ _ _ => "Macro"
  | .loop _ _ _ _ _ _ => "LoopContext"

/-- The way a value is spoken of when something is missing in it. -/
def describe : Datum → String
  | .none => "None"
  | .str _ true => "markupsafe.Markup object"
  | .day _ => "datetime.date object"
  | .moment _ => "datetime.datetime object"
  | .space _ => "jinja2.utils.Namespace object"
  | .macroValue _ _ _ => "jinja2.runtime.Macro object"
  | .loop _ _ _ _ _ _ => "jinja2.runtime.LoopContext object"
  | d => d.typeName ++ " object"

def isWritable (i : Int) : Bool := i.natAbs < Nat.pow 10 Value.digitLimit

def intText (i : Int) : Outcome String :=
  if isWritable i then .ok (Int.repr i) else .error .untold

/-- The largest size of a number, a text or a repeated sequence that is computed. -/
def sizeLimit : Nat := 10000000

def depthLimit : Nat := 500

/-- The form of a value inside a container. A list inside itself is not written again. -/
def literalAt (store : Store) : Nat → List Nat → Datum → Outcome String
  | 0, _, _ => .error .untold
  | depth + 1, seen, d =>
    let all (items : List Datum) : Outcome (List String) := items.mapM fun e => literalAt store depth seen e
    let entries (es : List (Datum × Datum)) : Outcome (List String) := es.mapM fun e => do
      return (← literalAt store depth seen e.1) ++ ": " ++ (← literalAt store depth seen e.2)
    let braces (parts : List String) : String := "\x7b" ++ Value.commaSeparated parts ++ "\x7d"
    let brackets (parts : List String) : String := "[" ++ Value.commaSeparated parts ++ "]"
    match d with
    | .missing _ => .ok "Undefined"
    | .none => .ok "None"
    | .bool b => .ok (Value.boolText b)
    | .int i => intText i
    | .float x => .ok (Shortest.text x)
    | .str s false => .ok (Quoted.text s)
    | .str s true => .ok ("Markup(" ++ Quoted.text s ++ ")")
    | .bytes data => .ok (Quoted.bytesText data)
    | .day d => .ok d.literal
    | .moment m => .ok m.literal
    | .tuple items => (all items).map Value.tupleText
    | .dict es => (entries es).map braces
    | .view es => (entries es).map fun parts => "mappingproxy(" ++ braces parts ++ ")"
    | .set items => (all items).map Value.setText
    | .list address =>
      if seen.contains address then .ok "[...]"
      else ((store.list? address).mapM fun e => literalAt store depth (address :: seen) e).map brackets
    | .range start stop step =>
      let base := "range(" ++ Int.repr start ++ ", " ++ Int.repr stop
      .ok (if step = 1 then base ++ ")" else base ++ ", " ++ Int.repr step ++ ")")
    | .listing kind items =>
      let name := match kind with
        | .keys => "dict_keys"
        | .values => "dict_values"
        | .items => "dict_items"
      (all items).map fun parts => name ++ "(" ++ brackets parts ++ ")"
    | .space address =>
      ((store.members? address).mapM fun (m : String × Datum) => do
        return Quoted.text m.1 ++ ": " ++ (← literalAt store depth seen m.2)).map
          fun parts => "<Namespace " ++ braces parts ++ ">"
    | .macroValue name _ _ => .ok ("<Macro " ++ Quoted.text name ++ ">")
    | .loop index count _ _ _ _ => .ok ("<LoopContext " ++ Nat.repr (index + 1) ++ "/" ++ Nat.repr (count.getD 0) ++ ">")
    | d => .ok ("<" ++ d.typeName ++ ">")

def literal (store : Store) (d : Datum) : Outcome String := literalAt store depthLimit [] d

/-- The text of a value. A missing one has none, but for a choice without an alternative. -/
def text (store : Store) : Datum → Outcome String
  | .missing .noAlternative => .ok ""
  | .missing how => .error how.fault
  | .str s _ => .ok s
  | .int i => intText i
  | .view es => literal store (.dict es)
  | .day d => .ok d.text
  | .moment m => .ok m.text
  | d => literal store d

def missing? : Datum → Option Missing
  | .missing how => some how
  | _ => Option.none

def rangeCount (start stop step : Int) : Nat :=
  if step > 0 then ((stop - start + step - 1) / step).toNat
  else if step < 0 then ((start - stop - step - 1) / (-step)).toNat
  else 0

def rangeItems (start stop step : Int) : List Datum :=
  (List.range (rangeCount start stop step)).map fun (k : Nat) => .int (start + step * k)

def truth (store : Store) : Datum → Outcome Bool
  | .missing .noAlternative => .ok false
  | .missing how => .error how.fault
  | .none => .ok false
  | .bool b => .ok b
  | .int i => .ok (i != 0)
  | .float x => .ok (x != 0.0)
  | .str s _ => .ok (s != "")
  | .bytes data => .ok (!data.isEmpty)
  | .tuple items | .set items | .listing _ items => .ok (!items.isEmpty)
  | .dict es | .view es => .ok (!es.isEmpty)
  | .list address => .ok (!(store.list? address).isEmpty)
  | .range start stop step => .ok (rangeCount start stop step != 0)
  | _ => .ok true

def integer? : Datum → Option Int
  | .bool b => some (if b then 1 else 0)
  | .int i => some i
  | _ => Option.none

inductive Number where
  | int (i : Int)
  | float (x : Float)

def number? : Datum → Option Number
  | .bool b => some (.int (if b then 1 else 0))
  | .int i => some (.int i)
  | .float x => some (.float x)
  | _ => Option.none

/-- The order of two numbers, exact between whole and floating-point ones; none
beside what is no number. -/
def Number.compare? : Number → Number → Option Ordering
  | .int i, .int j => some (compare i j)
  | .int i, .float y => (Binary.compareInt? y i).map Ordering.swap
  | .float x, .int j => Binary.compareInt? x j
  | .float x, .float y =>
    if x < y then some .lt else if x == y then some .eq else if x > y then some .gt else Option.none

def isMapping : Datum → Bool
  | .dict _ | .view _ => true
  | _ => false

def entries? : Datum → Option (List (Datum × Datum))
  | .dict es | .view es => some es
  | _ => Option.none

def pairwise (eq : Datum → Datum → Outcome Bool) : List Datum → List Datum → Outcome Bool
  | [], [] => .ok true
  | x :: xs, y :: ys => do if ← eq x y then pairwise eq xs ys else return false
  | _, _ => .ok false

def sameLists (eq : Datum → Datum → Outcome Bool) (xs ys : List Datum) : Outcome Bool :=
  if xs.length = ys.length then pairwise eq xs ys else .ok false

def holds (eq : Datum → Datum → Outcome Bool) (x : Datum) : List Datum → Outcome Bool
  | [] => .ok false
  | y :: ys => do if ← eq y x then return true else holds eq x ys

def holdsAll (eq : Datum → Datum → Outcome Bool) : List Datum → List Datum → Outcome Bool
  | [], _ => .ok true
  | x :: xs, ys => do if ← holds eq x ys then holdsAll eq xs ys else return false

def holdsEntry (eq : Datum → Datum → Outcome Bool) (k v : Datum) :
    List (Datum × Datum) → Outcome Bool
  | [] => .ok false
  | (k', v') :: rest => do if ← eq k k' then eq v v' else holdsEntry eq k v rest

def holdsEntries (eq : Datum → Datum → Outcome Bool) :
    List (Datum × Datum) → List (Datum × Datum) → Outcome Bool
  | [], _ => .ok true
  | (k, v) :: rest, es => do
    if ← holdsEntry eq k v es then holdsEntries eq rest es else return false

/-- Whether two values are equal. A missing value cannot be compared. -/
def equalAt (store : Store) : Nat → Datum → Datum → Outcome Bool
  | 0, _, _ => .error .untold
  | depth + 1, a, b =>
    let eq (x y : Datum) : Outcome Bool := equalAt store depth x y
    match a.missing?, b.missing? with
    | some .noAlternative, some .noAlternative => .ok true
    | some .noAlternative, Option.none | Option.none, some .noAlternative => .ok false
    | some .noAlternative, some how => .error how.fault
    | some how, _ => .error how.fault
    | Option.none, some how => .error how.fault
    | Option.none, Option.none =>
      match a.number?, b.number? with
      | some m, some n => .ok (m.compare? n = some .eq)
      | _, _ =>
        match a, b with
        | .none, .none => .ok true
        | .str s _, .str t _ => .ok (s = t)
        | .bytes s, .bytes t => .ok (s = t)
        | .day d, .day e => .ok (d = e)
        | .moment d, .moment e => .ok (d.order? e = some .eq)
        | .tuple xs, .tuple ys => sameLists eq xs ys
        | .list p, .list q =>
          if p = q then .ok true else sameLists eq (store.list? p) (store.list? q)
        | .set xs, .set ys => if xs.length = ys.length then holdsAll eq xs ys else .ok false
        | .range a b c, .range d e f => sameLists eq (rangeItems a b c) (rangeItems d e f)
        | .builtin f, .builtin g => .ok (f = g)
        | .space p, .space q => .ok (p = q)
        | .cursor p, .cursor q => .ok (p = q)
        | a, b =>
          match a.entries?, b.entries? with
          | some es, some fs => if es.length = fs.length then holdsEntries eq es fs else .ok false
          | _, _ => .ok false

def equal (store : Store) (a b : Datum) : Outcome Bool := equalAt store depthLimit a b

/-- Lists are ordered by the first place at which they differ. -/
def orderLists (eq : Datum → Datum → Outcome Bool)
    (order : Datum → Datum → Outcome (Option Ordering)) :
    List Datum → List Datum → Outcome (Option Ordering)
  | [], [] => .ok (some .eq)
  | [], _ :: _ => .ok (some .lt)
  | _ :: _, [] => .ok (some .gt)
  | x :: xs, y :: ys => do if ← eq x y then orderLists eq order xs ys else order x y

def compareAt (store : Store) : Nat → Datum → Datum → Outcome (Option Ordering)
  | 0, _, _ => .error .untold
  | depth + 1, a, b =>
    let order (x y : Datum) : Outcome (Option Ordering) := compareAt store depth x y
    match a.missing?, b.missing? with
    | some how, _ => .error how.fault
    | Option.none, some how => .error how.fault
    | Option.none, Option.none =>
      match a.number?, b.number? with
      | some m, some n => .ok (m.compare? n)
      | _, _ =>
        match a, b with
        | .str s _, .str t _ => .ok (some (compare s t))
        | .tuple xs, .tuple ys => orderLists (equal store) order xs ys
        | .list p, .list q => orderLists (equal store) order (store.list? p) (store.list? q)
        | .bytes s, .bytes t => .ok (some (compare (s.map UInt8.toNat) (t.map UInt8.toNat)))
        | .day d, .day e => .ok (some (compare d.number e.number))
        | .moment m, .moment n =>
          match m.order? n with
          | some o => .ok (some o)
          | Option.none => .error .untold
        | _, _ => .error .untold

/-- Values without an order, such as those beside what is no number, are never
before one another; values of kinds that have no order are at fault. -/
def less (store : Store) (a b : Datum) : Outcome Bool := do
  return (← compareAt store depthLimit a b) = some .lt

def isKey : Datum → Bool
  | .list _ | .dict _ | .view _ | .set _ | .missing _ => false
  | _ => true

def lookup (store : Store) (key : Datum) : List (Datum × Datum) → Outcome (Option Datum)
  | [] => .ok Option.none
  | (k, v) :: rest => do
    if ← equal store k key then return some v else lookup store key rest

def field? (name : String) : List (Datum × Datum) → Option Datum
  | [] => Option.none
  | (.str s _, v) :: rest => if s = name then some v else field? name rest
  | _ :: rest => field? name rest

/-- An entry given again keeps its place and takes the new value. -/
def put (store : Store) (key value : Datum) : List (Datum × Datum) → Outcome (List (Datum × Datum))
  | [] => .ok [(key, value)]
  | (k, v) :: rest => do
    if ← equal store k key then return (k, value) :: rest
    else return (k, v) :: (← put store key value rest)

end Datum

namespace Store

mutual

/-- A document value as a value of a template; its lists get new addresses. -/
def load (store : Store) : Value → Datum × Store
  | .null => (.none, store)
  | .bool b => (.bool b, store)
  | .int i => (.int i, store)
  | .float x => (.float x, store)
  | .str s => (.str s false, store)
  | .list items =>
    let (ds, store) := loadAll store items
    (.list store.size, store.push (.list ds))
  | .tuple items =>
    let (ds, store) := loadAll store items
    (.tuple ds, store)
  | .map entries =>
    let (es, store) := loadEntries store entries
    (.dict es, store)
  | .view entries =>
    let (es, store) := loadEntries store entries
    (.view es, store)
  | .set items =>
    let (ds, store) := loadAll store items
    (.set ds, store)
  | .bytes data => (.bytes data, store)
  | .day d => (.day d, store)
  | .moment m => (.moment m, store)

def loadAll (store : Store) : List Value → List Datum × Store
  | [] => ([], store)
  | v :: rest =>
    let (d, store) := load store v
    let (ds, store) := loadAll store rest
    (d :: ds, store)

def loadEntries (store : Store) : List (Value × Value) → List (Datum × Datum) × Store
  | [] => ([], store)
  | (k, v) :: rest =>
    let (dk, store) := load store k
    let (dv, store) := load store v
    let (es, store) := loadEntries store rest
    ((dk, dv) :: es, store)

end

end Store
end Template
end MetricPaths
