import MetricPaths.Yaml.Lexer

/-! The nodes of a document: scalars, sequences and mappings with their tags. -/
namespace MetricPaths
namespace Yaml

inductive Tag where
  | null
  | bool
  | int
  | float
  | binary
  | timestamp
  | str
  | seq
  | map
  | set
  | omap
  | pairs
  | merge
  | value
  | other (name : String)
deriving Repr, DecidableEq

namespace Tag

def lead : String := "tag:yaml.org,2002:"

def known : List (String × Tag) :=
  [("null", .null), ("bool", .bool), ("int", .int), ("float", .float), ("binary", .binary),
    ("timestamp", .timestamp), ("str", .str), ("seq", .seq), ("map", .map), ("set", .set),
    ("omap", .omap), ("pairs", .pairs), ("merge", .merge), ("value", .value)]

def ofName (name : String) : Tag :=
  ((known.find? fun e => lead ++ e.1 = name).map (·.2)).getD (.other name)

end Tag

/-- A node that contains itself stands there as `recursive` from the second time on. -/
inductive Node where
  | scalar (tag : Tag) (text : String)
  | sequence (tag : Tag) (items : List Node)
  | mapping (tag : Tag) (entries : List (Node × Node))
  | recursive
deriving Repr, Inhabited

namespace Node

mutual

def size : Node → Nat
  | .scalar _ _ | .recursive => 1
  | .sequence _ items => 1 + sizeOfAll items
  | .mapping _ entries => 1 + sizeOfEntries entries

def sizeOfAll : List Node → Nat
  | [] => 0
  | n :: rest => n.size + sizeOfAll rest

def sizeOfEntries : List (Node × Node) → Nat
  | [] => 0
  | (k, v) :: rest => k.size + v.size + sizeOfEntries rest

end
end Node

def isDecimal (c : Char) : Bool := '0' ≤ c && c ≤ '9'

def isDecimalOrLow (c : Char) : Bool := isDecimal c || c = '_'

def unsigned : List Char → List Char
  | '-' :: rest | '+' :: rest => rest
  | s => s

/-- Parts of at most two digits behind colons, the last of which may go on. -/
def isSexagesimal (isTail : List Char → Bool) : Nat → List Char → Bool
  | 0, _ => false
  | n + 1, s =>
    match s with
    | ':' :: a :: b :: rest =>
      ('0' ≤ a && a ≤ '5' && isDecimal b && (isTail rest || isSexagesimal isTail n rest)) ||
        (isDecimal a && (isTail (b :: rest) || isSexagesimal isTail n (b :: rest)))
    | [':', a] => isDecimal a && isTail []
    | _ => false

/-- Whether a plain scalar is a whole number: binary, octal, decimal, hexadecimal or
to the base of sixty. -/
def isInt (s : List Char) : Bool :=
  match unsigned s with
  | '0' :: 'b' :: rest => !rest.isEmpty && rest.all fun c => c = '0' || c = '1' || c = '_'
  | '0' :: 'x' :: rest => !rest.isEmpty && rest.all fun c => (Cut.hexValue? c).isSome || c = '_'
  | '0' :: rest => rest.all fun c => ('0' ≤ c && c ≤ '7') || c = '_'
  | c :: rest =>
    isDecimal c && (rest.all isDecimalOrLow ||
      isSexagesimal List.isEmpty s.length (rest.dropWhile isDecimalOrLow))
  | [] => false

def isExponent : List Char → Bool
  | [] => true
  | e :: sign :: d :: rest => (e = 'e' || e = 'E') && (sign = '+' || sign = '-') && (d :: rest).all isDecimal
  | _ => false

/-- Whether a plain scalar is a floating-point number; all of them have a point. -/
def isFloat (s : List Char) : Bool :=
  let word := String.ofList s
  let isFraction (s : List Char) : Bool := match s with
    | '.' :: rest => rest.all isDecimalOrLow
    | _ => false
  if word = ".nan" || word = ".NaN" || word = ".NAN" then true
  else if [".inf", ".Inf", ".INF"].contains (String.ofList (unsigned s)) then true
  else
    match s, unsigned s with
    | '.' :: c :: rest, _ => isDecimal c && isExponent (rest.dropWhile isDecimalOrLow)
    | _, c :: rest =>
      isDecimal c &&
        match rest.dropWhile isDecimalOrLow with
        | '.' :: places => isExponent (places.dropWhile isDecimalOrLow)
        | other => isSexagesimal isFraction s.length other
    | _, [] => false

/-- The parts of a timestamp, as they are written. -/
structure Timestamp where
  year : Nat
  month : Nat
  day : Nat
  time : Option (Nat × Nat × Nat)
  fraction : List Char
  zone : Option (Bool × Nat × Nat)

namespace Timestamp

/-- A number of between `least` and `most` digits. Of more digits it takes what it can. -/
def number? (least most : Nat) (s : List Char) : Option (Nat × List Char) :=
  let digits := (s.takeWhile isDecimal).take most
  if digits.length < least then none
  else some (digits.foldl (fun acc d => acc * 10 + (d.toNat - 48)) 0, s.drop digits.length)

def sign? (c : Char) (s : List Char) : Option (List Char) :=
  match s with
  | d :: rest => if c = d then some rest else none
  | [] => none

/-- `Z`, or a distance from universal time. -/
def zone? (s : List Char) : Option (Option (Bool × Nat × Nat)) :=
  match s.dropWhile fun c => c = ' ' || c = '\t' with
  | [] => if s.isEmpty then some none else none
  | ['Z'] => some (some (false, 0, 0))
  | c :: rest =>
    if c = '+' || c = '-' then do
      let (hours, rest) ← number? 1 2 rest
      match rest with
      | [] => some (some (c = '-', hours, 0))
      | ':' :: rest =>
        let (minutes, rest) ← number? 2 2 rest
        if rest.isEmpty then some (some (c = '-', hours, minutes)) else none
      | _ => none
    else none

def ofText? (s : List Char) : Option Timestamp := do
  let (year, rest) ← number? 4 4 s
  let rest ← sign? '-' rest
  let (month, rest) ← number? 1 2 rest
  let rest ← sign? '-' rest
  let (day, rest) ← number? 1 2 rest
  match rest with
  | [] => some ⟨year, month, day, none, [], none⟩
  | c :: after =>
    let rest ←
      if c = 'T' || c = 't' then some after
      else if c = ' ' || c = '\t' then some (rest.dropWhile fun c => c = ' ' || c = '\t')
      else none
    let (hour, rest) ← number? 1 2 rest
    let rest ← sign? ':' rest
    let (minute, rest) ← number? 2 2 rest
    let rest ← sign? ':' rest
    let (second, rest) ← number? 2 2 rest
    let (fraction, rest) := match rest with
      | '.' :: rest => (rest.takeWhile isDecimal, rest.dropWhile isDecimal)
      | rest => ([], rest)
    let zone ← zone? rest
    some ⟨year, month, day, some (hour, minute, second), fraction, zone⟩

end Timestamp

/-- Whether a plain scalar is a timestamp. A day without a time has two digits for the
month and the day. -/
def isTimestamp (s : List Char) : Bool :=
  match Timestamp.ofText? s with
  | some t => t.time.isSome || s.length = 10
  | none => false

/-- The tag of a plain scalar that has none of its own. -/
def impliedTag (text : String) : Tag :=
  let s := text.toList
  if ["", "~", "null", "Null", "NULL"].contains text then .null
  else if ["yes", "Yes", "YES", "no", "No", "NO", "true", "True", "TRUE", "false", "False", "FALSE",
      "on", "On", "ON", "off", "Off", "OFF"].contains text then .bool
  else if isFloat s then .float
  else if isInt s then .int
  else if text = "<<" then .merge
  else if isTimestamp s then .timestamp
  else if text = "=" then .value
  else .str

end Yaml
end MetricPaths
