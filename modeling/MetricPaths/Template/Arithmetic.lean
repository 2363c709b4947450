import MetricPaths.Template.Percent

/-! What signs between values compute. -/
namespace MetricPaths
namespace Template
namespace Arithmetic
open Op

def escapeMarkup (s : String) : String :=
  String.join (s.toList.map fun c =>
    if c = '&' then "&amp;"
    else if c = '<' then "&lt;"
    else if c = '>' then "&gt;"
    else if c = '"' then "&#34;"
    else if c = '\'' then "&#39;"
    else String.singleton c)

def toFloat (n : Datum.Number) : Op Float :=
  match n with
  | .float x => return x
  | .int i => match Binary.ofInt? i with
    | some x => return x
    | none => fail

/-- A power of a natural number, as far as its size is in bounds. Powers of zero and one
always are. -/
def powerOfNat (base exponent : Nat) : Op Nat := do
  match base with
  | 0 => return if exponent = 0 then 1 else 0
  | 1 => return 1
  | base =>
    if Binary.bitLength base * exponent > Datum.sizeLimit then fail
    return Nat.pow base exponent

def power (a b : Datum.Number) : Op Datum := do
  match a, b with
  | .int i, .int (.ofNat n) =>
    let size : Int ← powerOfNat i.natAbs n
    return .int (if i < 0 && n % 2 = 1 then -size else size)
  | a, b =>
    let x ← toFloat a
    let y ← toFloat b
    if x == 0.0 && y < 0.0 then fail
    let r := Float.pow x y
    if r.isNaN && !x.isNaN && !y.isNaN then fail
    if r.isInf && !x.isInf && !y.isInf then fail
    return .float r

def numbers (op : Binary) (a b : Datum.Number) : Op Datum := do
  match op, a, b with
  | .add, .int i, .int j => return .int (i + j)
  | .subtract, .int i, .int j => return .int (i - j)
  | .multiply, .int i, .int j =>
    if Binary.bitLength i.natAbs + Binary.bitLength j.natAbs > Datum.sizeLimit then fail
    return .int (i * j)
  | .divide, .int i, .int j =>
    if j = 0 then fail
    match Binary.ofQuotient? (if j < 0 then -i else i) j.natAbs with
    | some x => return .float x
    | none => fail
  | .floorDivide, .int i, .int j => if j = 0 then fail else return .int (Int.fdiv i j)
  | .modulo, .int i, .int j => if j = 0 then fail else return .int (Int.fmod i j)
  | .power, a, b => power a b
  | op, a, b =>
    let x ← toFloat a
    let y ← toFloat b
    match op with
    | .add => return .float (x + y)
    | .subtract => return .float (x - y)
    | .multiply => return .float (x * y)
    | .divide => if y == 0.0 then fail else return .float (x / y)
    | .floorDivide => if y == 0.0 then fail else return .float (Binary.floorDivMod x y).1
    | .modulo => if y == 0.0 then fail else return .float (Binary.floorDivMod x y).2
    | .power => fail

/-- How often a sequence is repeated: a number of 64 bits, and none if it is negative. -/
def repeatCount (n : Int) : Op Nat :=
  if n < Int64.minValue.toInt || Int64.maxValue.toInt < n then fail else return n.toNat

def repeatItems {α : Type} (items : List α) (n : Int) : Op (List α) := do
  let count ← repeatCount n
  if items.isEmpty then return []
  if items.length * count > Datum.sizeLimit then fail
  return (List.replicate count items).flatten

def repeatText (s : String) (n : Int) : Op String :=
  String.ofList <$> repeatItems s.toList n

/-- A sequence several times over, whichever side the number stands on. -/
def repeated (d : Datum) (n : Int) : Op Datum := do
  match d with
  | .str s safe => return .str (← repeatText s n) safe
  | .tuple items => return .tuple (← repeatItems items n)
  | .list address => newList (← repeatItems ((← store).list? address) n)
  | _ => fail

/-- The values a text written for markup takes in are escaped first. -/
def escapedFor (d : Datum) : Op Datum := do
  match d with
  | .str s true => return .str s true
  | .str s false => return .str (escapeMarkup s) true
  | d => return d

def binary (op : Binary) (a b : Datum) : Op Datum := do
  match op, a with
  | .modulo, .str s false => return .plain (← lift (Percent.format (← store) s b))
  | .modulo, .str s true =>
    let b ← match b with
      | .tuple items => Datum.tuple <$> items.mapM escapedFor
      | b => escapedFor b
    return .str (← lift (Percent.format (← store) s b)) true
  | _, _ =>
    let a ← need a
    let b ← need b
    match a.number?, b.number? with
    | some m, some n => numbers op m n
    | _, _ =>
      match op, a, b with
      | .add, .str s false, .str t false => return .plain (s ++ t)
      | .add, .str s true, .str t safe => return .str (s ++ if safe then t else escapeMarkup t) true
      | .add, .str s false, .str t true => return .str (escapeMarkup s ++ t) true
      | .add, .tuple xs, .tuple ys => return .tuple (xs ++ ys)
      | .add, .bytes xs, .bytes ys => return .bytes (xs ++ ys)
      | .add, .list p, .list q => do
        let s ← store
        newList (s.list? p ++ s.list? q)
      | .multiply, a, b =>
        match a.integer?, b.integer? with
        | some n, _ => repeated b n
        | _, some n => repeated a n
        | _, _ => fail
      | _, _, _ => fail

def unary (op : Unary) (d : Datum) : Op Datum := do
  match op with
  | .not => return .bool (!(← truth d))
  | .negate =>
    match (← need d).number? with
    | some (.int i) => return .int (-i)
    | some (.float x) => return .float (-x)
    | none => fail
  | .plus =>
    match (← need d).number? with
    | some (.int i) => return .int i
    | some (.float x) => return .float x
    | none => fail

def occursIn (part : List Char) : List Char → Bool
  | [] => part.isEmpty
  | c :: rest => part.isPrefixOf (c :: rest) || occursIn part rest

/-- Whether a value is inside another: a part of a text, a key of a mapping, an item
of a sequence. -/
def contains (item whole : Datum) : Op Bool := do
  match whole with
  | .missing .noAlternative => return false
  | .missing how => throw how.fault
  | .str s _ =>
    match item with
    | .str t _ => return occursIn t.toList s.toList
    | _ => fail
  | .dict es | .view es =>
    match item with
    | .missing how => throw how.fault
    | item =>
      if !item.isKey then fail
      return (← lift (Datum.lookup (← store) item es)).isSome
  | .set items =>
    match item with
    | .missing how => throw how.fault
    | item =>
      if !item.isKey then fail
      lift (Datum.holds (Datum.equal (← store)) item items)
  | whole =>
    if !isIterable whole then fail
    let found ← items whole
    lift (Datum.holds (Datum.equal (← store)) item found)

def compare (op : Comparison) (a b : Datum) : Op Bool := do
  match op with
  | .equal => equal a b
  | .unequal => return !(← equal a b)
  | .isIn => contains a b
  | .notIn => return !(← contains a b)
  | .less => less a b
  | .greater => return (← lift (Datum.compareAt (← store) Datum.depthLimit a b)) = some .gt
  | .lessEqual =>
    match ← lift (Datum.compareAt (← store) Datum.depthLimit a b) with
    | some .gt | none => return false
    | _ => return true
  | .greaterEqual =>
    match ← lift (Datum.compareAt (← store) Datum.depthLimit a b) with
    | some .lt | none => return false
    | _ => return true

end Arithmetic
end Template
end MetricPaths
