import MetricPaths.Decimal.Binary

/-! The decimal text of a floating-point number: the fewest digits that read back
as the same number, and of those the nearest to it. -/
namespace MetricPaths
namespace Shortest
open Binary

structure Decimal where
  digits : Nat
  exponent : Int
deriving Repr, DecidableEq

def leadingExponent (num den : Nat) : Int :=
  if den ≤ num then (Nat.repr (num / den)).length - 1
  else -((Nat.repr ((den + num - 1) / num - 1)).length : Int)

/-- The multiple of `10 ^ grid` nearest to the number, if one of those beside it
lies in the interval that reads back as the number. A tie goes to the even digit. -/
def onGrid? (x : Finite) (grid : Int) : Option Nat :=
  let (up, down) := powerOfTwo x.exponent
  let (p, r) := powerOfTen grid
  let num := 4 * x.mantissa * up * r
  let den := 4 * down * p
  let high := (4 * x.mantissa + 2) * up * r
  let low := (4 * x.mantissa - (if x.nearBelow then 1 else 2)) * up * r
  let inside (d : Nat) : Bool :=
    if x.mantissa % 2 = 0 then low ≤ d * den && d * den ≤ high
    else low < d * den && d * den < high
  let d := num / den
  let toLower := num - d * den
  let toUpper := (d + 1) * den - num
  let lowerFirst := toLower < toUpper || (toLower = toUpper && d % 2 = 0)
  match inside d, inside (d + 1) with
  | true, true => some (if lowerFirst then d else d + 1)
  | true, false => some d
  | false, true => some (d + 1)
  | false, false => none

/-- The first grid with a hit, from one digit to seventeen. -/
def ofFinite (x : Finite) : Decimal :=
  let (num, den) := x.quotient
  let top := leadingExponent num den
  let rec search (count : Nat) (tries : Nat) : Decimal :=
    let grid := top - (count : Int) + 1
    match tries with
    | 0 => ⟨(onGrid? x grid).getD 0, grid⟩
    | more + 1 =>
      match onGrid? x grid with
      | some d => ⟨d, grid⟩
      | none => search (count + 1) more
  search 1 16

/-- Powers of ten from the first of these up to below the second are written
without an exponent. -/
structure Style where
  positionalFrom : Int
  positionalBelow : Int
  exponentDigits : Nat

def style : Style := ⟨-4, 16, 2⟩

def dropZeros (digits : List Char) : List Char :=
  (digits.reverse.dropWhile (· == '0')).reverse

def zeros (n : Nat) : List Char := List.replicate n '0'

def padLeft (width : Nat) (digits : List Char) : List Char :=
  zeros (width - digits.length) ++ digits

/-- A whole number keeps one zero behind the point; an exponent has a sign and at
least two digits. -/
def write (style : Style) (d : Decimal) : List Char :=
  let all := (Nat.repr d.digits).toList
  let top : Int := d.exponent + all.length - 1
  let ds := dropZeros all
  if style.positionalFrom ≤ top ∧ top < style.positionalBelow then
    if top < 0 then '0' :: '.' :: (zeros (-top - 1).toNat ++ ds)
    else
      let whole := top.toNat + 1
      let behind := ds.drop whole
      ds.take whole ++ zeros (whole - ds.length) ++ '.' :: (if behind.isEmpty then ['0'] else behind)
  else
    let behind := ds.drop 1
    ds.take 1 ++ (if behind.isEmpty then [] else '.' :: behind) ++
      'e' :: (if top < 0 then '-' else '+') :: padLeft style.exponentDigits (Nat.repr top.natAbs).toList

def text (x : Float) : String :=
  let sign (negative : Bool) : String := if negative then "-" else ""
  match parts x with
  | .notANumber => "nan"
  | .infinite negative => sign negative ++ "inf"
  | .zero negative => sign negative ++ "0.0"
  | .finite negative m => sign negative ++ String.ofList (write style (ofFinite m))

end Shortest
end MetricPaths
