import MetricPaths.Yaml.Grammar
import MetricPaths.Decimal.Numeral
import MetricPaths.Value
import MetricPaths.Text.Letters

/-! The plain values that the nodes of a document stand for. -/
namespace MetricPaths
namespace Yaml

/-- Nodes further in are turned into values later, so a fault counts the less the
deeper it is: `depth` says how many collections stand around it. -/
structure Blame where
  depth : Nat
  fault : Fault

abbrev Made := Except Blame

def blame {α : Type} (fault : Fault) : Made α := .error ⟨0, fault⟩

def deeper {α : Type} (made : Made α) : Made α :=
  made.mapError fun b => { b with depth := b.depth + 1 }

/-- All results, or the first among the least deep faults. -/
def inOrder {α : Type} : List (Made α) → Made (List α)
  | [] => .ok []
  | m :: rest =>
    match m, inOrder rest with
    | .ok a, .ok as => .ok (a :: as)
    | .ok _, .error b => .error b
    | .error a, .ok _ => .error a
    | .error a, .error b => .error (if a.depth ≤ b.depth then a else b)

namespace Scalar

def withoutLow (s : List Char) : List Char := s.filter (· ≠ '_')

def whole (base : Nat) (s : List Char) : Made Int :=
  match Numeral.integerIn? base s with
  | some i => if i.natAbs < Nat.pow 10 Value.digitLimit || base ≠ 10 then .ok i else blame (.accident .value)
  | none => blame (.accident .value)

/-- Digits to the base of sixty, the last one first. -/
def sexagesimal (digits : List Int) : Int := digits.foldr (fun d acc => d + 60 * acc) 0

def colonParts (s : List Char) : List (List Char) :=
  s.foldr (fun c parts => if c = ':' then [] :: parts else match parts with
    | [] => [[c]]
    | p :: rest => (c :: p) :: rest) [[]]

def int (s : List Char) : Made Int := do
  let s := withoutLow s
  if s.isEmpty then blame (.accident .digits)
  let negative := s.head? = some '-'
  let digits := unsigned s
  let n ← match digits with
    | [] => blame (.accident .digits)
    | '0' :: 'b' :: rest => whole 2 rest
    | '0' :: 'x' :: rest => whole 16 rest
    | '0' :: _ => whole 8 digits
    | digits =>
      if digits.contains ':' then
        return (if negative then -1 else 1) *
          sexagesimal (← inOrder ((colonParts digits).map (whole 10))).reverse
      else whole 10 digits
  return if negative then -n else n

def floating (s : List Char) : Made Float :=
  match Numeral.float? s with
  | some x => .ok x
  | none => blame (.accident .value)

def float (s : List Char) : Made Float := do
  let s := (withoutLow s).flatMap Letters.lowerOf
  if s.isEmpty then blame (.accident .digits)
  let negative := s.head? = some '-'
  let digits := unsigned s
  if digits = ['.', 'n', 'a', 'n'] then return 0.0 / 0.0
  let x ←
    if digits = ['.', 'i', 'n', 'f'] then pure (1.0 / 0.0)
    else if digits.contains ':' then do
      let parts ← inOrder ((colonParts digits).map floating)
      pure (parts.reverse.foldl (fun (acc : Float × Float) d => (acc.1 + d * acc.2, acc.2 * 60.0))
        (0.0, 1.0)).1
    else floating digits
  return if negative then -x else x

def bool (s : List Char) : Made Bool :=
  let word := String.ofList (Letters.lower s)
  if ["yes", "true", "on"].contains word then .ok true
  else if ["no", "false", "off"].contains word then .ok false
  else blame (.accident .spelling)

def micro (fraction : List Char) : Nat :=
  let digits := (fraction ++ List.replicate 6 '0').take 6
  digits.foldl (fun acc d => acc * 10 + (d.toNat - 48)) 0

def timestamp (s : List Char) : Made Value :=
  match Timestamp.ofText? s with
  | none => blame (.accident .moment)
  | some t =>
    let day : Day := ⟨t.year, t.month, t.day⟩
    match t.time with
    | none => if Calendar.isDay day then .ok (.day day) else blame (.accident .value)
    | some (hour, minute, second) =>
      let offset := t.zone.map fun (negative, hours, minutes) =>
        let distance : Int := hours * 60 + minutes
        if negative then -distance else distance
      let m : Moment := ⟨day, hour, minute, second, micro t.fraction, offset⟩
      if Calendar.isMoment m then .ok (.moment m) else blame (.accident .value)

def sextet? (c : Char) : Option Nat :=
  if 'A' ≤ c && c ≤ 'Z' then some (c.toNat - 65)
  else if 'a' ≤ c && c ≤ 'z' then some (c.toNat - 71)
  else if '0' ≤ c && c ≤ '9' then some (c.toNat + 4)
  else if c = '+' then some 62
  else if c = '/' then some 63
  else none

/-- Bytes written as groups of four letters. What is no letter does not matter; padding
ends the bytes once it completes a group. `held` are the sextets of the group at hand. -/
def bytes (held : List Nat) (pads : Nat) : List Char → Option (List UInt8)
  | [] => if held.isEmpty then some [] else none
  | c :: rest =>
    if c = '=' then
      if held.length ≥ 2 && held.length + pads + 1 ≥ 4 then some []
      else bytes held (if held.length ≥ 2 then pads + 1 else pads) rest
    else
      match sextet? c, held with
      | none, _ => bytes held pads rest
      | some v, [] => bytes [v] 0 rest
      | some v, [a] => (bytes [a, v] 0 rest).map (UInt8.ofNat (a * 4 + v / 16) :: ·)
      | some v, [a, b] => (bytes [a, b, v] 0 rest).map (UInt8.ofNat (b % 16 * 16 + v / 4) :: ·)
      | some v, _ :: _ :: d :: _ => (bytes [] 0 rest).map (UInt8.ofNat (d % 4 * 64 + v) :: ·)

def binary (s : List Char) : Made (List UInt8) :=
  if s.all fun c => c.toNat < 128 then
    match bytes [] 0 s with
    | some bs => .ok bs
    | none => blame .malformed
  else blame .malformed

end Scalar

namespace Node

def tag : Node → Tag
  | .scalar t _ | .sequence t _ | .mapping t _ => t
  | .recursive => .other ""

/-- The text of a scalar. A mapping with the key `=` has the text under it. -/
def text : Node → Made (List Char)
  | .scalar _ s => .ok s.toList
  | .mapping _ entries => textOfEntries entries
  | _ => blame .malformed
where
  textOfEntries : List (Node × Node) → Made (List Char)
  | [] => blame .malformed
  | (k, v) :: rest => if k.tag = .value then v.text else textOfEntries rest

/-- The entries of a mapping with those that it takes in from others, which come
first. Of several mappings taken in at once the last comes first. -/
def merged : Nat → Node → Made (List (Node × Node))
  | 0, _ => blame (.accident .recursion)
  | n + 1, .mapping _ entries => do
    let taken ← entries.mapM fun (k, v) => do
      if k.tag = .merge then
        match v with
        | .mapping _ _ => merged n v
        | .sequence _ items => do
          let all ← items.mapM fun item => match item with
            | .mapping _ _ => merged n item
            | .recursive => blame (.accident .recursion)
            | _ => blame .malformed
          return all.reverse.flatten
        | .recursive => blame (.accident .recursion)
        | _ => blame .malformed
      else return []
    return taken.flatten ++ entries.filter (fun e => e.1.tag ≠ .merge)
  | _ + 1, .recursive => blame (.accident .recursion)
  | _ + 1, _ => blame .malformed

def isCollection : Tag → Bool
  | .seq | .map | .set | .omap | .pairs => true
  | _ => false

def value : Nat → Node → Made Value
  | 0, _ => blame (.accident .recursion)
  | _ + 1, .recursive => blame (.accident .recursion)
  | n + 1, node =>
    let item (child : Node) : Made Value :=
      if isCollection child.tag then deeper (value n child) else value n child
    let entries : Made (List (Value × Value)) := do
      let found ← merged (n + 1) node
      let made ← inOrder (found.flatMap fun (k, v) =>
        let key : Made Value :=
          if isCollection k.tag then blame .malformed
          else if k.tag = .value then k.text.map fun s => .str (String.ofList s)
          else value n k
        [key, item v])
      return pairUp made
    let single (child : Node) : List (Made Value) :=
      match child with
      | .mapping _ [(k, v)] => [item k, item v]
      | _ => [blame .malformed]
    match node.tag with
    | .null => node.text.map fun _ => .null
    | .bool => do return .bool (← Scalar.bool (← node.text))
    | .int => do return .int (← Scalar.int (← node.text))
    | .float => do return .float (← Scalar.float (← node.text))
    | .binary => do return .bytes (← Scalar.binary (← node.text))
    | .timestamp => do Scalar.timestamp (← node.text)
    | .str => do return .str (String.ofList (← node.text))
    | .seq =>
      match node with
      | .sequence _ items => (inOrder (items.map item)).map .list
      | _ => blame .malformed
    | .map => entries.map fun es => .map (Value.collect es)
    | .set => entries.map fun es => .set ((Value.collect es).map (·.1))
    | .omap | .pairs =>
      match node with
      | .sequence _ items =>
        (inOrder (items.flatMap single)).map fun made =>
          .list ((pairUp made).map fun (k, v) => .tuple [k, v])
      | _ => blame .malformed
    | .merge | .value | .other _ => blame .malformed
where
  pairUp : List Value → List (Value × Value)
  | k :: v :: rest => (k, v) :: pairUp rest
  | _ => []

end Node

/-- The value of a text; one without a document stands for nothing. -/
def read (s : List Char) : Except Fault Value := do
  match ← Node.ofText? s with
  | none => return .null
  | some node =>
    match node.value (node.size + 1) with
    | .ok v => return v
    | .error b => throw b.fault

end Yaml
end MetricPaths
