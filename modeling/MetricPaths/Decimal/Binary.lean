/-! Binary floating-point numbers taken apart into exact integers. -/
namespace MetricPaths
namespace Binary

/-- The positive number `mantissa * 2 ^ exponent`. Its neighbours lie one step of
the last bit away, except that the one below a power of two is twice as near. -/
structure Finite where
  mantissa : Nat
  exponent : Int
  nearBelow : Bool
deriving Repr, DecidableEq

inductive Parts where
  | notANumber
  | infinite (negative : Bool)
  | zero (negative : Bool)
  | finite (negative : Bool) (magnitude : Finite)
deriving Repr, DecidableEq

def partsOfBits (bits : Nat) : Parts :=
  let negative := bits / Nat.pow 2 63 % 2 = 1
  let field : Nat := bits / Nat.pow 2 52 % 2048
  let fraction : Nat := bits % Nat.pow 2 52
  if field = 2047 then if fraction = 0 then .infinite negative else .notANumber
  else if field = 0 then
    if fraction = 0 then .zero negative else .finite negative ⟨fraction, -1074, false⟩
  else .finite negative ⟨Nat.pow 2 52 + fraction, (field : Int) - 1075, fraction = 0 && field != 1⟩

def parts (x : Float) : Parts := partsOfBits x.toBits.toNat

/-- The two sides of the quotient that equals `2 ^ e`. -/
def powerOfTwo (e : Int) : Nat × Nat := (Nat.pow 2 e.toNat, Nat.pow 2 (-e).toNat)

def powerOfTen (e : Int) : Nat × Nat := (Nat.pow 10 e.toNat, Nat.pow 10 (-e).toNat)

/-- The number as an exact quotient of naturals. -/
def Finite.quotient (x : Finite) : Nat × Nat :=
  let (up, down) := powerOfTwo x.exponent
  (x.mantissa * up, down)

/-- The nearest number to `digits * 10 ^ exponent`; beyond the largest one it is
infinite. Exponents far outside the range are settled without forming the power. -/
def ofDecimal (negative : Bool) (digits : Nat) (exponent : Int) : Float :=
  let size : Int := (Nat.repr digits).length
  let magnitude : Float :=
    if digits = 0 then 0.0
    else if size + exponent > 400 then 1.0 / 0.0
    else if size + exponent < -400 then 0.0
    else if exponent < 0 then Float.ofScientific digits true exponent.natAbs
    else Float.ofScientific digits false exponent.toNat
  if negative then -magnitude else magnitude

def ofInt? (i : Int) : Option Float :=
  let x := ofDecimal (i < 0) i.natAbs 0
  if x.isInf then none else some x

def truncate? (x : Float) : Option Int :=
  match parts x with
  | .notANumber | .infinite _ => none
  | .zero _ => some 0
  | .finite negative m =>
    let (num, den) := m.quotient
    let n : Int := (num / den : Nat)
    some (if negative then -n else n)

def floor? (x : Float) : Option Int :=
  match parts x with
  | .notANumber | .infinite _ => none
  | .zero _ => some 0
  | .finite negative m =>
    let (num, den) := m.quotient
    some (if negative then -((num + den - 1) / den : Nat) else (num / den : Nat))

/-- The order of a number and an integer, exact at every size. There is none
beside the number that is not one. -/
def compareInt? (x : Float) (i : Int) : Option Ordering :=
  match parts x with
  | .notANumber => none
  | .infinite negative => some (if negative then .lt else .gt)
  | .zero _ => some (compare 0 i)
  | .finite negative m =>
    let (num, den) := m.quotient
    let n : Int := if negative then -(num : Int) else num
    some (compare n (i * den))

def bitLength (n : Nat) : Nat := if n = 0 then 0 else Nat.log2 n + 1

/-- The number nearest to `mantissa * 2 ^ exponent`; `rest` says that a little more
is meant. A tie goes to the even neighbour. -/
def ofScaled (mantissa : Nat) (rest : Bool) (exponent : Int) : Float :=
  let target : Int := max (exponent + bitLength mantissa - 53) (-1074)
  let shift := target - exponent
  if shift ≤ 0 then Float.scaleB (Float.ofNat mantissa) exponent
  else
    let unit := Nat.pow 2 shift.toNat
    let kept := mantissa / unit
    let twice := 2 * (mantissa % unit)
    let up := twice > unit || (twice = unit && (rest || kept % 2 = 1))
    Float.scaleB (Float.ofNat (if up then kept + 1 else kept)) target

def ofQuotient? (num : Int) (den : Nat) : Option Float :=
  if num = 0 then some 0.0
  else
    let n := num.natAbs
    let shift : Int := 66 + bitLength den - bitLength n
    let (up, down) := (n * Nat.pow 2 shift.toNat, den * Nat.pow 2 (-shift).toNat)
    let x := ofScaled (up / down) (up % down != 0) (-shift)
    if x.isInf then none else some (if num < 0 then -x else x)

/-- What is left of `x` after as many whole steps of `y` toward zero as fit. -/
def remainder (x y : Float) : Float :=
  match parts x, parts y with
  | .zero _, .finite _ _ | .zero _, .infinite _ | .finite _ _, .infinite _ => x
  | .finite negative m, .finite _ n =>
    let low := min m.exponent n.exponent
    let a := m.mantissa * Nat.pow 2 (m.exponent - low).toNat
    let b := n.mantissa * Nat.pow 2 (n.exponent - low).toNat
    let r := ofScaled (a % b) false low
    if negative then -r else r
  | _, _ => 0.0 / 0.0

def zeroLike (x : Float) : Float := if x < 0.0 || 1.0 / x < 0.0 then -0.0 else 0.0

/-- The whole quotient toward the floor and the remainder that has the sign of the
divisor. -/
def floorDivMod (x y : Float) : Float × Float :=
  let r := remainder x y
  let q := (x - r) / y
  let (r, q) :=
    if r != 0.0 then if (y < 0.0) != (r < 0.0) then (r + y, q - 1.0) else (r, q)
    else (zeroLike y, q)
  if q != 0.0 then
    let f := q.floor
    (if q - f > 0.5 then f + 1.0 else f, r)
  else (zeroLike (x / y), r)

end Binary
end MetricPaths
