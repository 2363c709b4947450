import MetricPaths.Decimal.Fixed
import MetricPaths.Template.Machine
import MetricPaths.Text.Classes

/-! Texts with places for values, each marked by a percent sign. -/
namespace MetricPaths
namespace Template
namespace Percent

structure Flags where
  left : Bool
  plus : Bool
  space : Bool
  zero : Bool
  alternate : Bool

def Flags.none : Flags := ⟨false, false, false, false, false⟩

def flags (f : Flags) : List Char → Flags × List Char
  | '-' :: rest => flags { f with left := true } rest
  | '+' :: rest => flags { f with plus := true } rest
  | ' ' :: rest => flags { f with space := true } rest
  | '0' :: rest => flags { f with zero := true } rest
  | '#' :: rest => flags { f with alternate := true } rest
  | rest => (f, rest)

/-- The values still to be written, and the one that named places look into. -/
structure Supply where
  values : List Datum
  whole : Datum
  /-- Values left over are no fault when they are a mapping or a list. -/
  lenient : Bool

abbrev Writing := StateT Supply Outcome

def nextValue : Writing Datum := do
  let s ← get
  match s.values with
  | v :: rest =>
    set { s with values := rest }
    return v
  | [] => throw .untold

/-- Looks a value up for a named place, which takes it as the only value left. -/
def nameValue (name : String) : Writing Unit := do
  let s ← get
  match s.whole with
  | .dict es | .view es =>
    match Datum.field? name es with
    | some v => set { s with values := [v] }
    | none => throw .untold
  | .missing how => throw how.fault
  | _ => throw .untold

def countLimit : Nat := 2147483647

/-- A number of places, given by digits or by a value. -/
def count (s : List Char) : Writing (Option Int × List Char) :=
  match s with
  | '*' :: rest => do
    match (← nextValue).integer? with
    | some i => if i.natAbs > countLimit then throw .untold else return (some i, rest)
    | none => throw .untold
  | s =>
    let digits := s.takeWhile Classes.isAsciiDigit
    if digits.isEmpty then return (none, s)
    else
      let n := digits.foldl (fun acc c => acc * 10 + (c.toNat - 48)) 0
      if n > countLimit then throw .untold else return (some (n : Int), s.dropWhile Classes.isAsciiDigit)

def padTo (width : Nat) (left : Bool) (s : List Char) : List Char :=
  let fill := List.replicate (width - s.length) ' '
  if left then s ++ fill else fill ++ s

/-- A sign, a mark of the base, and the digits, filled up with zeros between them if
that is asked for. -/
def number (f : Flags) (width : Nat) (negative : Bool) (mark digits : List Char) : List Char :=
  let sign := if negative then ['-'] else if f.plus then ['+'] else if f.space then [' '] else []
  if f.zero && !f.left then
    sign ++ mark ++ List.replicate (width - sign.length - mark.length - digits.length) '0' ++ digits
  else padTo width f.left (sign ++ mark ++ digits)

def digitsIn (base : Nat) (upper : Bool) (n : Nat) : List Char :=
  let ds := Nat.toDigits base n
  if upper then ds.map Char.toUpper else ds

def wholeOf (d : Datum) : Outcome Int :=
  match d with
  | .missing how => .error how.fault
  | .float x => match Binary.truncate? x with
    | some i => .ok i
    | none => .error .untold
  | d => match d.integer? with
    | some i => .ok i
    | none => .error .untold

def floatOf (d : Datum) : Outcome Float :=
  match d with
  | .missing how => .error how.fault
  | .float x => .ok x
  | d => match d.integer? with
    | some i => match Binary.ofInt? i with
      | some x => .ok x
      | none => .error .untold
    | none => .error .untold

def wholeText (f : Flags) (width : Nat) (precision : Option Int) (base : Nat) (mark : List Char)
    (upper : Bool) (i : Int) : List Char :=
  let digits := digitsIn base upper i.natAbs
  let digits := Shortest.padLeft (precision.getD 0).toNat digits
  number f width (i < 0) (if f.alternate then mark else []) digits

def floatText (f : Flags) (width : Nat) (precision : Option Int) (kind : Char) (x : Float) : List Char :=
  let places := (precision.getD 6).toNat
  let upper := kind.isUpper
  let mark := if upper then 'E' else 'e'
  let body (m : Option Binary.Finite) : List Char :=
    match kind.toLower with
    | 'f' => Fixed.fixed m places f.alternate
    | 'e' => Fixed.scientific mark m places f.alternate
    | _ => Fixed.general mark m places f.alternate
  let word (s : String) : List Char := if upper then s.toUpper.toList else s.toList
  match Binary.parts x with
  | .notANumber => number { f with zero := false } width false [] (word "nan")
  | .infinite negative => number { f with zero := false } width negative [] (word "inf")
  | .zero negative => number f width negative [] (body none)
  | .finite negative m => number f width negative [] (body (some m))

def cut (precision : Option Int) (s : List Char) : List Char :=
  match precision with
  | some n => s.take n.toNat
  | none => s

def placeNumber (f : Flags) (width : Nat) (precision : Option Int) (kind : Char) (d : Datum) :
    Outcome (List Char) := do
  if (precision.getD 0).natAbs > Datum.sizeLimit then throw .untold
  match kind with
  | 'd' | 'i' | 'u' =>
    let i ← wholeOf d
    if !Datum.isWritable i then throw .untold
    return wholeText f width precision 10 [] false i
  | 'x' | 'X' | 'o' =>
    match d.integer? with
    | some i =>
      if kind = 'o' then return wholeText f width precision 8 ['0', 'o'] false i
      else return wholeText f width precision 16 ['0', kind] (kind = 'X') i
    | none => throw .untold
  | 'e' | 'E' | 'f' | 'F' | 'g' | 'G' => return floatText f width precision kind (← floatOf d)
  | _ => throw .untold

def place (store : Store) (f : Flags) (width : Nat) (precision : Option Int) (kind : Char)
    (d : Datum) : Outcome (List Char) := do
  if width > Datum.sizeLimit then throw .untold
  match kind with
  | 's' => return padTo width f.left (cut precision (← d.text store).toList)
  | 'r' => return padTo width f.left (cut precision (← d.literal store).toList)
  | 'a' => return padTo width f.left (cut precision (Quoted.ascii (← d.literal store).toList))
  | 'c' =>
    match d with
    | .str s _ => match s.toList with
      | [c] => return padTo width f.left [c]
      | _ => throw .untold
    | d => match d.integer? with
      | some i => if 0 ≤ i && i < 0x110000 then return padTo width f.left [Char.ofNat i.toNat] else throw .untold
      | none => throw .untold
  | kind => placeNumber f width precision kind d

/-- The name of a place in parentheses, which can hold some in turn. -/
def placeName : Nat → List Char → Option (List Char × List Char)
  | _, [] => none
  | depth, ')' :: rest =>
    match depth with
    | 0 => some ([], rest)
    | depth + 1 => (placeName depth rest).map fun (n, r) => (')' :: n, r)
  | depth, '(' :: rest => (placeName (depth + 1) rest).map fun (n, r) => ('(' :: n, r)
  | depth, c :: rest => (placeName depth rest).map fun (n, r) => (c :: n, r)

/-- Writes a text. Two percent signs are one that is meant as such. -/
def write (store : Store) : Nat → List Char → Writing (List Char)
  | 0, _ => throw .untold
  | _ + 1, [] => return []
  | n + 1, '%' :: '%' :: rest => return '%' :: (← write store n rest)
  | n + 1, '%' :: rest => do
    let rest ← match rest with
      | '(' :: inner =>
        match placeName 0 inner with
        | some (name, rest) => do
          nameValue (String.ofList name)
          pure rest
        | none => throw .untold
      | rest => pure rest
    let (f, rest) := flags .none rest
    let (width, rest) ← count rest
    let f := if width.any (· < 0) then { f with left := true } else f
    let (precision, rest) ← match rest with
      | '.' :: r => do
        let (p, r) ← count r
        pure (some (max 0 (p.getD 0)), r)
      | r => pure (none, r)
    let rest := match rest with
      | c :: r => if c = 'h' || c = 'l' || c = 'L' then r else rest
      | [] => []
    match rest with
    | [] => throw .untold
    | kind :: rest =>
      let d ← nextValue
      let here ← place store f (width.getD 0).natAbs precision kind d
      return here ++ (← write store n rest)
  | n + 1, c :: rest => return c :: (← write store n rest)

/-- A text with its places filled by a tuple of values, by one value, or by the
entries of a mapping. Values that are left over are at fault. -/
def format (store : Store) (s : String) (d : Datum) : Outcome String := do
  let supply : Supply := match d with
    | .tuple items => ⟨items, d, false⟩
    | .dict _ | .view _ | .list _ | .missing _ | .range _ _ _ | .bytes _ => ⟨[d], d, true⟩
    | d => ⟨[d], d, false⟩
  let text := s.toList
  let (out, left) ← (write store (text.length + 1) text).run supply
  if !left.values.isEmpty && !left.lenient then throw .untold
  return String.ofList out

end Percent
end Template
end MetricPaths
