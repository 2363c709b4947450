import MetricPaths.Decimal.Binary
import MetricPaths.Text.Classes

/-! Reading numerals. Floating-point ones are digits of any script with an optional point,
an optional exponent, a sign and blanks around it, or a word for what is no
finite number; whole ones can be in other bases. -/
namespace MetricPaths
namespace Numeral

/-- Digits with single low lines between them; nothing at all is allowed too. -/
def digits? (s : List Char) : Option (List Nat) :=
  let rec go (afterDigit : Bool) : List Char → Option (List Nat)
    | [] => if afterDigit then some [] else none
    | '_' :: rest => if afterDigit then go false rest else none
    | c :: rest => (Classes.digitValue? c).bind fun v => (go true rest).map (v :: ·)
  if s.isEmpty then some [] else go false s

def valueOf (digits : List Nat) : Nat := digits.foldl (fun acc d => acc * 10 + d) 0

def signed (s : List Char) : Bool × List Char :=
  match s with
  | '-' :: rest => (true, rest)
  | '+' :: rest => (false, rest)
  | s => (false, s)

def exponent? (s : List Char) : Option Int :=
  match s with
  | [] => some 0
  | _ :: rest =>
    let (negative, rest) := signed rest
    (digits? rest).bind fun ds =>
      if ds.isEmpty then none
      else some (if negative then -(valueOf ds : Int) else valueOf ds)

def unsigned? (negative : Bool) (s : List Char) : Option Float :=
  let isMark (c : Char) : Bool := c = 'e' || c = 'E'
  let body := s.takeWhile fun c => !isMark c
  let whole := body.takeWhile (· ≠ '.')
  let places := (body.dropWhile (· ≠ '.')).drop 1
  match digits? whole, digits? places, exponent? (s.dropWhile fun c => !isMark c) with
  | some ws, some ps, some e =>
    if ws.isEmpty && ps.isEmpty then none
    else some (Binary.ofDecimal negative (valueOf (ws ++ ps)) (e - ps.length))
  | _, _, _ => none

def float? (s : List Char) : Option Float :=
  let (negative, rest) := signed (Classes.strip s)
  let word := String.ofList (rest.map Char.toLower)
  if word = "inf" || word = "infinity" then some (if negative then -1.0 / 0.0 else 1.0 / 0.0)
  else if word = "nan" then some (0.0 / 0.0)
  else unsigned? negative rest

/-- A whole number read in a base; a mark for the base may stand in front. -/
def integerIn? (base : Nat) (s : List Char) : Option Int :=
  if base = 10 then Identifier.integer? s
  else
    let (negative, digits) := signed (Classes.strip s)
    let (base, digits) := match base, digits with
      | 16, '0' :: 'x' :: r | 16, '0' :: 'X' :: r | 0, '0' :: 'x' :: r | 0, '0' :: 'X' :: r => (16, r)
      | 8, '0' :: 'o' :: r | 8, '0' :: 'O' :: r | 0, '0' :: 'o' :: r | 0, '0' :: 'O' :: r => (8, r)
      | 2, '0' :: 'b' :: r | 2, '0' :: 'B' :: r | 0, '0' :: 'b' :: r | 0, '0' :: 'B' :: r => (2, r)
      | 0, r => (10, r)
      | b, r => (b, r)
    let value? (c : Char) : Option Nat :=
      ((Classes.digitValue? c).or
        (if 'a' ≤ c.toLower && c.toLower ≤ 'z' then some (c.toLower.toNat - 87) else none)).filter (· < base)
    if digits.isEmpty then none
    else
      (digits.foldlM (fun acc c => (value? c).map (acc * base + ·)) 0).map fun n =>
        if negative then -(n : Int) else n

end Numeral
end MetricPaths
