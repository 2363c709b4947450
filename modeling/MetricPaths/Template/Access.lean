import MetricPaths.Template.Machine

/-! Members, subscripts and slices. A member of a mapping is the value under that
key and nothing else. -/
namespace MetricPaths
namespace Template
namespace Access
open Op

def missingAttribute (d : Datum) (name : String) : Datum :=
  .missing (.member d.describe name)

def valueOf? (d : Datum) (name : String) : Option Datum :=
  match d, name with
  | .int _, "real" | .int _, "numerator" | .float _, "real" => some d
  | .int _, "imag" => some (.int 0)
  | .int _, "denominator" | .bool _, "denominator" => some (.int 1)
  | .bool b, "real" | .bool b, "numerator" => some (.int (if b then 1 else 0))
  | .bool _, "imag" => some (.int 0)
  | .float _, "imag" => some (.float 0.0)
  | .day d, "year" => some (.int d.year)
  | .day d, "month" => some (.int d.month)
  | .day d, "day" => some (.int d.day)
  | .moment m, "year" => some (.int m.day.year)
  | .moment m, "month" => some (.int m.day.month)
  | .moment m, "day" => some (.int m.day.day)
  | .moment m, "hour" => some (.int m.hour)
  | .moment m, "minute" => some (.int m.minute)
  | .moment m, "second" => some (.int m.second)
  | .moment m, "microsecond" => some (.int m.micro)
  | .range start _ _, "start" => some (.int start)
  | .range _ stop _, "stop" => some (.int stop)
  | .range _ _ step, "step" => some (.int step)
  | _, _ => none

/-- An attribute that a value has as such, whatever is stored in it. -/
def inherent? (d : Datum) (name : String) : Option Datum :=
  if Attributes.has d name then
    if Attributes.isGuarded name then some (.missing (.guarded d.typeName name))
    else some ((valueOf? d name).getD (.method d name))
  else none

def loopField? (index : Nat) (count : Option Nat) (isLast : Bool) (before after : Datum)
    (depth : Nat) : String → Option Datum
  | "index" => some (.int (index + 1))
  | "index0" => some (.int index)
  | "first" => some (.bool (index = 0))
  | "last" => some (.bool isLast)
  | "length" => count.map fun n => .int n
  | "revindex" => count.map fun n => .int ((n : Int) - index)
  | "revindex0" => count.map fun n => .int ((n : Int) - index - 1)
  | "depth" => some (.int (depth + 1))
  | "depth0" => some (.int depth)
  | "previtem" => some before
  | "nextitem" => some after
  | _ => none

def member (d : Datum) (name : String) : Op Datum := do
  match d with
  | .dict es | .view es => return (Datum.field? name es).getD (missingAttribute d name)
  | .missing how =>
    match inherent? d name with
    | some found => return found
    | none => throw how.fault
  | .space address =>
    match ((← store).members? address).lookup name with
    | some v => return v
    | none =>
      if name = "__class__" then return .missing (.guarded d.typeName name)
      else return missingAttribute d name
  | .loop index count isLast before after depth =>
    match loopField? index count isLast before after depth name with
    | some v => return v
    | none =>
      if name = "cycle" then return .method d name
      else return (inherent? d name).getD (missingAttribute d name)
  | .macroValue macroName _ _ =>
    if name = "name" then return .plain macroName
    else return (inherent? d name).getD (missingAttribute d name)
  | d => return (inherent? d name).getD (missingAttribute d name)

/-- Where a subscript leads to in a sequence; negative ones count from the end. -/
def place? (count : Nat) (i : Int) : Option Nat :=
  let j := if i < 0 then i + count else i
  if 0 ≤ j ∧ j < count then some j.toNat else none

def itemAt? (store : Store) (d : Datum) (i : Int) : Option Datum :=
  match d with
  | .str s safe =>
    let cs := s.toList
    (place? cs.length i).bind fun j => (cs[j]?).map fun c => .str (String.singleton c) safe
  | .bytes data => (place? data.length i).bind fun j => (data[j]?).map fun b => .int b.toNat
  | .tuple items => (place? items.length i).bind fun j => items[j]?
  | .list address =>
    let items := store.list? address
    (place? items.length i).bind fun j => items[j]?
  | .range start stop step =>
    (place? (Datum.rangeCount start stop step) i).map fun j => .int (start + step * j)
  | _ => none

def isSequence : Datum → Bool
  | .str _ _ | .bytes _ | .tuple _ | .list _ | .range _ _ _ => true
  | _ => false

/-- What is left when there is nothing under a subscript: an attribute of that name,
or a missing value. -/
def otherwise (d index : Datum) : Op Datum := do
  match index with
  | .str name _ =>
    match d with
    | .dict _ | .view _ => return (inherent? d name).getD (missingAttribute d name)
    | d => member d name
  | index => return .missing (.element d.describe (← literal index))

def item (d index : Datum) : Op Datum := do
  match d with
  | .missing how => throw how.fault
  | .dict es | .view es =>
    match index with
    | .missing how => throw how.fault
    | index =>
      if !index.isKey then otherwise d index
      else
        match ← lift (Datum.lookup (← store) index es) with
        | some v => return v
        | none => otherwise d index
  | d =>
    if isSequence d then
      match index.integer? with
      | some i =>
        match itemAt? (← store) d i with
        | some v => return v
        | none => return .missing (.element d.describe (← literal index))
      | none => otherwise d index
    else otherwise d index

/-- The places that a slice takes: the first, the one after the last, and the step. -/
def sliceBounds (count : Nat) (start stop step : Option Int) : Option (Int × Int × Int) :=
  let n : Int := count
  let step := step.getD 1
  if step = 0 then none
  else
    let clamp (low high i : Int) : Int :=
      let j := if i < 0 then i + n else i
      if j < low then low else if j > high then high else j
    if step > 0 then
      some ((start.map (clamp 0 n)).getD 0, (stop.map (clamp 0 n)).getD n, step)
    else
      some ((start.map (clamp (-1) (n - 1))).getD (n - 1), (stop.map (clamp (-1) (n - 1))).getD (-1), step)

def slicePlaces (start stop step : Int) : List Nat :=
  (List.range (Datum.rangeCount start stop step)).map fun (k : Nat) => (start + step * k).toNat

def pick {α : Type} (items : List α) (places : List Nat) : List α :=
  let all := items.toArray
  places.filterMap fun i => all[i]?

/-- A bound of a slice: nothing or a whole number. -/
def bound (d : Datum) : Op (Option Int) := do
  match d with
  | .none => return none
  | d => match d.integer? with
    | some i => return some i
    | none => fail

def slice (d start stop step : Datum) : Op Datum := do
  match d with
  | .missing how => throw how.fault
  | d =>
    if !isSequence d then fail
    let start ← bound start
    let stop ← bound stop
    let step ← bound step
    match sliceBounds (← length d) start stop step with
    | none => fail
    | some (a, b, c) =>
      let places := slicePlaces a b c
      match d with
      | .str s safe => return .str (String.ofList (pick s.toList places)) safe
      | .bytes data => return .bytes (pick data places)
      | .tuple items => return .tuple (pick items places)
      | .list address => newList (pick ((← store).list? address) places)
      | .range start _ step => return .range (start + a * step) (start + b * step) (step * c)
      | _ => fail

end Access
end Template
end MetricPaths
