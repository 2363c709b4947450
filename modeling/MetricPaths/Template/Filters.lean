import MetricPaths.Template.Methods
import MetricPaths.Template.Tests
import MetricPaths.Decimal.Numeral
import MetricPaths.Segment

/-! The filters of templates. Filters that go through a sequence item by item give a
cursor: a fault at an item is met only by who reads so far. -/
namespace MetricPaths
namespace Template
namespace Filters
open Op

def given (values : List (Option Datum)) (i : Nat) : Option Datum := (values[i]?).join

def flag (values : List (Option Datum)) (i : Nat) : Op Bool :=
  match given values i with
  | none => return false
  | some d => truth d

/-- The steps of an attribute path: names, and numbers where a step is all digits. -/
def stepsOfText (s : String) : List Datum :=
  (Parts.splitOn ['.'] (s.length + 1) s.toList).map fun part =>
    match !part.isEmpty && part.all Classes.isDigit, Identifier.integer? part with
    | true, some i => .int i
    | _, _ => .plain (String.ofList part)

def steps (d : Option Datum) : List Datum :=
  match d with
  | none | some .none => []
  | some (.str s _) => stepsOfText s
  | some d => [d]

/-- Follows an attribute path; what is missing on the way can be replaced. -/
def follow (fallback : Option Datum) (d : Datum) (path : List Datum) : Op Datum :=
  path.foldlM (fun d step => do
    let found ← Access.item d step
    match found, fallback with
    | .missing _, some other => return other
    | found, _ => return found) d

/-- Texts are compared without regard to case unless it is asked for. -/
def foldCase (caseSensitive : Bool) (d : Datum) : Datum :=
  match d with
  | .str s safe => if caseSensitive then d else .str (String.ofList (Letters.lower s.toList)) safe
  | d => d

def keyOf (caseSensitive : Bool) (path : List Datum) (d : Datum) : Op Datum := do
  return foldCase caseSensitive (← follow none d path)

def keysOf (caseSensitive : Bool) (path : Option Datum) (d : Datum) : Op Datum := do
  let paths := match path with
    | some (.str s _) =>
      (Parts.splitOn [','] (s.length + 1) s.toList).map fun part => stepsOfText (String.ofList part)
    | other => [steps other]
  return .tuple (← paths.mapM fun path => keyOf caseSensitive path d)

def sortByKey (key : Datum → Op Datum) (reversed : Bool) (found : List Datum) :
    Op (List Datum) := do
  let keyed ← found.mapM fun d => do return Datum.tuple [← key d, d]
  let first (d : Datum) : Datum := match d with
    | .tuple (k :: _) => k
    | d => d
  let sorted ← Methods.sorted (fun a b => less (first a) (first b)) reversed keyed
  return sorted.filterMap fun d => match d with
    | .tuple [_, v] => some v
    | _ => none

/-- A text as it is, and the text of any other value. -/
def softText (d : Datum) : Op (List Char × Bool) := do
  match d with
  | .str s safe => return (s.toList, safe)
  | d => return ((← text d).toList, false)

def onText (f : List Char → List Char) (d : Datum) : Op Datum := do
  let (s, safe) ← softText d
  return .str (String.ofList (f s)) safe

def isWordBreak (c : Char) : Bool :=
  c = '-' || Classes.isBlank c || c = '(' || c = '\x7b' || c = '[' || c = '<'

def titleWords : Nat → List Char → List Char
  | 0, _ => []
  | _ + 1, [] => []
  | n + 1, c :: rest =>
    if isWordBreak c then c :: titleWords n rest
    else
      Letters.upperOf c ++ Letters.lower (rest.takeWhile fun c => !isWordBreak c) ++
        titleWords n (rest.dropWhile fun c => !isWordBreak c)

def trimmed (chars : Option Datum) (d : Datum) : Op Datum := do
  match chars with
  | none | some .none => onText Classes.strip d
  | some (.str set _) =>
    onText (fun s => Parts.stripRightOf set.toList.contains (Parts.stripLeftOf set.toList.contains s)) d
  | some _ => fail

def replaced (d old new : Datum) (count : Option Datum) : Op Datum := do
  let s ← text d
  let old ← text old
  let new ← text new
  let most ← match count with
    | none | some .none => pure Methods.unlimited
    | count => Methods.limitOf count
  return .plain (String.ofList (Parts.replace old.toList new.toList most s.toList))

def joined (d : Datum) (separator path : Option Datum) : Op Datum := do
  let path := steps path
  let separator := separator.getD (.plain "")
  if path.isEmpty then let _ ← text separator
  let (found, fault) ← itemsAndFault d
  let sep ← text separator
  let parts ← found.mapM fun d => do text (← follow none d path)
  match fault with
  | some fault => throw fault
  | none => return .plain (String.intercalate sep parts)

def summed (d : Datum) (path start : Option Datum) : Op Datum := do
  let path := steps path
  let (found, fault) ← itemsAndFault d
  let start := start.getD (.int 0)
  match start with
  | .str _ _ | .bytes _ => fail
  | _ => pure ()
  let total ← found.foldlM (fun acc d => do Arithmetic.binary .add acc (← follow none d path)) start
  match fault with
  | some fault => throw fault
  | none => return total

def extreme (before : Datum → Datum → Op Bool) (d : Datum) (caseSensitive : Bool)
    (path : Option Datum) : Op Datum := do
  match ← items d with
  | [] => return .missing .unstated
  | first :: rest =>
    let key := keyOf caseSensitive (steps path)
    let (best, _) ← rest.foldlM (fun (acc : Datum × Datum) d => do
      let k ← key d
      if ← before k acc.2 then return (d, k) else return acc) (first, ← key first)
    return best

def distinct (key : Datum → Op Datum) :
    List Datum → List Datum → Op (List Datum × Option RenderFault)
  | _, [] => return ([], none)
  | seen, d :: rest => do
    let found ← tryCatch (do
        let k ← key d
        let _ ← need k
        if !k.isKey then fail
        return Except.ok (k, ← lift (Datum.holds (Datum.equal (← store)) k seen)))
      fun fault => return Except.error fault
    match found with
    | .error fault => return ([], some fault)
    | .ok (_, true) => distinct key seen rest
    | .ok (k, false) =>
      let (more, fault) ← distinct key (k :: seen) rest
      return (d :: more, fault)

/-- The largest whole number not above a number, or the smallest not below it. -/
def stepTo (up : Bool) (d : Datum) : Op Int := do
  match d with
  | .float x =>
    match Binary.floor? (if up then -x else x) with
    | some i => return if up then -i else i
    | none => fail
  | d => match d.integer? with
    | some i => return i
    | none => fail

def rounded (d : Datum) (precision method : Option Datum) : Op Datum := do
  let method ← match method with
    | none => pure "common"
    | some (.str s _) => pure s
    | some _ => fail
  let precision := precision.getD (.int 0)
  if method = "common" then
    match precision with
    | .none =>
      match d with
      | .float x =>
        match Binary.truncate? (Fixed.roundTo x 0) with
        | some i => return .int i
        | none => fail
      | d => match d.integer? with
        | some i => return .int i
        | none => fail
    | precision =>
      match precision.integer?, d with
      | some p, .float x =>
        let r := Fixed.roundTo x p
        if r.isInf && !x.isInf then fail else return .float r
      | some p, d => match d.integer? with
        | some i => return .int (Fixed.roundInt i p)
        | none => fail
      | none, _ => fail
  else if method = "ceil" || method = "floor" then
    let scale ← Arithmetic.binary .power (.int 10) precision
    let scaled ← Arithmetic.binary .multiply d scale
    Arithmetic.binary .divide (.int (← stepTo (method = "ceil") scaled)) scale
  else fail

/-- The whole number nearest to zero that a value or its text stands for. -/
def toInt (d : Datum) (fallback base : Option Datum) : Op Datum := do
  let other := fallback.getD (.int 0)
  let ofFloat (x : Option Float) : Op Datum :=
    match x with
    | none => return other
    | some x =>
      if x.isNaN then return other
      else match Binary.truncate? x with
        | some i => return .int i
        | none => return other
  match d with
  | .missing how => throw how.fault
  | .str s _ =>
    let base ← match base with
      | none => pure (10 : Nat)
      | some b => match b.integer? with
        | some (.ofNat b) => pure b
        | _ => pure 1
    let found := if base = 0 || (2 ≤ base && base ≤ 36) then Numeral.integerIn? base s.toList else none
    match found with
    | some i => if i.natAbs < Nat.pow 10 Value.digitLimit then return .int i else ofFloat (Numeral.float? s.toList)
    | none => ofFloat (Numeral.float? s.toList)
  | .float x => if x.isInf then fail else ofFloat (some x)
  | d => match d.integer? with
    | some i => return .int i
    | none => return other

def toFloat (d : Datum) (fallback : Option Datum) : Op Datum := do
  let other := fallback.getD (.float 0.0)
  match d with
  | .missing how => throw how.fault
  | .str s _ => return ((Numeral.float? s.toList).map Datum.float).getD other
  | d => match d.number? with
    | some n => return .float (← Arithmetic.toFloat n)
    | none => return other

def absolute (d : Datum) : Op Datum :=
  match d.number? with
  | some (.int i) => return .int i.natAbs
  | some (.float x) => return .float x.abs
  | none => fail

/-- The items from the last to the first. A text is turned around as a text. -/
def reversed (d : Datum) : Op Datum := do
  match d with
  | .str s safe => return .str (String.ofList s.toList.reverse) safe
  | d => newCursor (← items d).reverse none

def last (d : Datum) : Op Datum := do
  match d with
  | .cursor _ | .set _ => fail
  | d => return ((← items d).getLast?).getD (.missing .unstated)

def dictSorted (d : Datum) (values : List (Option Datum)) : Op Datum := do
  let caseSensitive ← flag values 0
  let reversed ← flag values 2
  let byValue ← match (given values 1).getD (.plain "key") with
    | .str "key" _ => pure false
    | .str "value" _ => pure true
    | _ => fail
  match d with
  | .missing how => throw how.fault
  | d =>
    match d.entries? with
    | none => throw (.told (Quoted.text d.typeName ++ " object has no attribute 'items'"))
    | some es =>
      let pairs := es.map fun (k, v) => Datum.tuple [k, v]
      let key (d : Datum) : Op Datum :=
        match d with
        | .tuple [k, v] => return foldCase caseSensitive (if byValue then v else k)
        | d => return d
      newList (← sortByKey key reversed pairs)

def escapeSegment (d : Datum) : Op Datum := do
  return .plain (String.ofList (Segment.escape (← text d).toList))

def escapeForMarkup (again : Bool) (d : Datum) : Op Datum := do
  match d with
  | .str s true => return .str (if again then Arithmetic.escapeMarkup s else s) true
  | d => return .str (Arithmetic.escapeMarkup (← text d)) true

/-- A cursor over what goes through each item of a sequence; a falsy value has no
items. The first fault is left for who reads so far. -/
def lazily (d : Datum) (f : Datum → Op (List Datum)) : Op Datum := do
  let found ← tryCatch (do
      if ← truth d then return Except.ok (← itemsAndFault d) else return Except.ok ([], none))
    fun fault => return Except.error fault
  match found with
  | .error fault => newCursor [] (some fault)
  | .ok (source, fault) =>
    let (mapped, inner) ← collect f source
    newCursor mapped (inner.or fault)

/-- A filter or a test is asked for by its name. -/
def nameOf (d : Datum) : Op String :=
  match d with
  | .str s _ => return s
  | _ => fail

/-- Items of which a test, or without one their truth, is as wanted. -/
def selected (wanted : Bool) (path : List Datum) (d : Datum) (a : Arguments) : Op Datum :=
  lazily d fun item => do
    let subject ← follow none item path
    let holds ← match a.positional with
      | [] => truth subject
      | name :: rest => Tests.apply (← nameOf name) subject ⟨rest, a.keywords⟩
    return if holds = wanted then [item] else []

def simple (name : String) (d : Datum) (a : Arguments) : Op Datum := do
  let bind (required : Nat) (names : List String) : Op (List (Option Datum)) := lift (a.bind required names)
  match name with
  | "default" | "d" => do
    let values ← bind 0 ["default_value", "boolean"]
    let other := (given values 0).getD (.plain "")
    match d with
    | .missing _ => return other
    | d =>
      if ← flag values 1 then return if ← truth d then d else other
      else return d
  | "escape" => do let _ ← bind 0 []; escapeSegment d
  | "e" => do let _ ← bind 0 []; escapeForMarkup false d
  | "forceescape" => do let _ ← bind 0 []; escapeForMarkup true d
  | "safe" => do let _ ← bind 0 []; return .str (← text d) true
  | "upper" => do let _ ← bind 0 []; onText Letters.upper d
  | "lower" => do let _ ← bind 0 []; onText Letters.lower d
  | "capitalize" => do let _ ← bind 0 []; onText Letters.capitalize d
  | "title" => do
    let _ ← bind 0 []
    let (s, _) ← softText d
    return .plain (String.ofList (titleWords (s.length + 1) s))
  | "trim" => do
    let values ← bind 0 ["chars"]
    trimmed (given values 0) d
  | "string" => do let _ ← bind 0 []; onText id d
  | "replace" => do
    match ← bind 2 ["old", "new", "count"] with
    | [some old, some new, count] => replaced d old new count
    | _ => fail
  | "length" | "count" => do let _ ← bind 0 []; return .int (← length d)
  | "wordcount" => do
    let _ ← bind 0 []
    let (s, _) ← softText d
    let isGap (c : Char) : Bool := !Classes.isWord c
    let starts := s.zip (' ' :: s) |>.filter fun (c, before) => !isGap c && isGap before
    return .int starts.length
  | "first" => do let _ ← bind 0 []; return (← firstItem? d).getD (.missing .unstated)
  | "last" => do let _ ← bind 0 []; last d
  | "list" => do let _ ← bind 0 []; newList (← items d)
  | "join" => do
    let values ← bind 0 ["d", "attribute"]
    joined d (given values 0) (given values 1)
  | "sort" => do
    let values ← bind 0 ["reverse", "case_sensitive", "attribute"]
    let reversed ← flag values 0
    let caseSensitive ← flag values 1
    newList (← sortByKey (keysOf caseSensitive (given values 2)) reversed (← items d))
  | "dictsort" => do dictSorted d (← bind 0 ["case_sensitive", "by", "reverse"])
  | "reverse" => do let _ ← bind 0 []; reversed d
  | "sum" => do
    let values ← bind 0 ["attribute", "start"]
    summed d (given values 0) (given values 1)
  | "min" => do
    let values ← bind 0 ["case_sensitive", "attribute"]
    extreme less d (← flag values 0) (given values 1)
  | "max" => do
    let values ← bind 0 ["case_sensitive", "attribute"]
    extreme (fun a b => less b a) d (← flag values 0) (given values 1)
  | "unique" => do
    let values ← bind 0 ["case_sensitive", "attribute"]
    let key := keyOf (← flag values 0) (steps (given values 1))
    let found ← tryCatch (do return Except.ok (← itemsAndFault d)) fun fault => return Except.error fault
    match found with
    | .error fault => newCursor [] (some fault)
    | .ok (source, fault) =>
      let (kept, inner) ← distinct key [] source
      newCursor kept (inner.or fault)
  | "abs" => do let _ ← bind 0 []; absolute d
  | "round" => do
    let values ← bind 0 ["precision", "method"]
    rounded d (given values 0) (given values 1)
  | "int" => do
    let values ← bind 0 ["default", "base"]
    toInt d (given values 0) (given values 1)
  | "float" => do
    let values ← bind 0 ["default"]
    toFloat d (given values 0)
  | "format" => do
    let (s, safe) ← softText d
    match a.positional, a.keywords with
    | args, [] => Arithmetic.binary .modulo (.str (String.ofList s) safe) (.tuple args)
    | [], keywords =>
      Arithmetic.binary .modulo (.str (String.ofList s) safe)
        (.dict (keywords.map fun (k, v) => (.plain k, v)))
    | _, _ => fail
  | "select" => selected true [] d a
  | "reject" => selected false [] d a
  | "selectattr" | "rejectattr" => do
    match a.positional with
    | attr :: rest => selected (name = "selectattr") (steps (some attr)) d ⟨rest, a.keywords⟩
    | [] => newCursor [] (some .untold)
  | _ => fail

/-- How many times filters that apply others may stand inside each other. -/
def mapDepth : Nat := 8

def applyAt : Nat → String → Datum → Arguments → Op Datum
  | 0, _, _, _ => fail
  | depth + 1, name, d, a =>
    if name = "map" then
      match a.positional, a.keywords.lookup "attribute" with
      | [], some path =>
        let others := a.keywords.filter fun k => k.1 ≠ "attribute" && k.1 ≠ "default"
        let fallback := (a.keywords.lookup "default").bind fun d => match d with
          | .none => none
          | d => some d
        lazily d fun item => do
          if !others.isEmpty then fail
          return [← follow fallback item (steps (some path))]
      | name :: rest, _ =>
        lazily d fun item => do return [← applyAt depth (← nameOf name) item ⟨rest, a.keywords⟩]
      | [], none => lazily d fun _ => fail
    else simple name d a

def apply (name : String) (d : Datum) (a : Arguments) : Op Datum := applyAt mapDepth name d a

end Filters
end Template
end MetricPaths
