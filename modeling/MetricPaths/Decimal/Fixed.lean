import MetricPaths.Decimal.Shortest

/-! Decimal texts with a given number of places or digits. The exact value is
rounded once; a tie goes to the even digit. -/
namespace MetricPaths
namespace Fixed
open Binary

def roundQuotient (num den : Nat) : Nat :=
  let q := num / den
  let twice := 2 * (num % den)
  if twice > den || (twice = den && q % 2 = 1) then q + 1 else q

def onGrid (x : Finite) (grid : Int) : Nat :=
  let (num, den) := x.quotient
  let (p, r) := powerOfTen grid
  roundQuotient (num * r) (den * p)

/-- Digits with a point before the last `places` of them. Without places there is a point
only if it is kept. -/
def pointed (places : Nat) (keepPoint : Bool) (digits : Nat) : List Char :=
  let ds := Shortest.padLeft (places + 1) (Nat.repr digits).toList
  let whole := ds.length - places
  ds.take whole ++ (if places = 0 && !keepPoint then [] else '.' :: ds.drop whole)

/-- Every number is exact with so many places, or so many digits; further ones are zeros. -/
def exactPlaces : Nat := 1100

def fixed (x : Option Finite) (places : Nat) (keepPoint : Bool) : List Char :=
  let near := min places exactPlaces
  let digits := match x with
    | none => 0
    | some m => onGrid m (-(near : Int))
  pointed near keepPoint digits ++ List.replicate (places - near) '0'

def significant (x : Option Finite) (count : Nat) : Nat × Int :=
  match x with
  | none => (0, 0)
  | some m =>
    let (num, den) := m.quotient
    let top := Shortest.leadingExponent num den
    let d := onGrid m (top - count + 1)
    if (Nat.repr d).length > count then (d / 10, top + 1) else (d, top)

def exponentText (mark : Char) (e : Int) : List Char :=
  mark :: (if e < 0 then '-' else '+') :: Shortest.padLeft 2 (Nat.repr e.natAbs).toList

/-- One digit before the point and so many places behind, and the exponent. -/
def mantissa (x : Option Finite) (places : Nat) (keepPoint : Bool) : List Char × Int :=
  let near := min places exactPlaces
  let (digits, e) := significant x (near + 1)
  (pointed near keepPoint digits ++ List.replicate (places - near) '0', e)

def scientific (mark : Char) (x : Option Finite) (places : Nat) (keepPoint : Bool) : List Char :=
  let (digits, e) := mantissa x places keepPoint
  digits ++ exponentText mark e

def dropZeroPlaces (s : List Char) : List Char :=
  if s.contains '.' then
    let t := (s.reverse.dropWhile (· = '0'))
    (match t with | '.' :: rest => rest | t => t).reverse
  else s

/-- So many digits in all, with an exponent only where the number is too small or
too large for them; the point and zeros at the end of the places go unless they are kept. -/
def general (mark : Char) (x : Option Finite) (count : Nat) (keepPoint : Bool) : List Char :=
  let count := max count 1
  let (digits, e) := mantissa x (count - 1) keepPoint
  let trim (s : List Char) : List Char := if keepPoint then s else dropZeroPlaces s
  if -4 ≤ e ∧ e < count then trim (fixed x (count - 1 - e).toNat keepPoint)
  else trim digits ++ exponentText mark e

def roundTo (x : Float) (places : Int) : Float :=
  match parts x with
  | .finite negative m =>
    if places > 323 then x
    else if places < -309 then (if negative then -0.0 else 0.0)
    else ofDecimal negative (onGrid m (-places)) (-places)
  | _ => x

def roundInt (i : Int) (places : Int) : Int :=
  if places ≥ 0 then i
  else
    let unit := Nat.pow 10 places.natAbs
    let n : Int := roundQuotient i.natAbs unit * unit
    if i < 0 then -n else n

end Fixed
end MetricPaths
