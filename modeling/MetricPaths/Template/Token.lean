import MetricPaths.Decimal.Binary
import MetricPaths.Text.Classes

/-! The tokens of a template. Text stands between tags; inside a tag the text is
cut into names, literals and signs. -/
namespace MetricPaths
namespace Template

inductive Fault where
  | character
  | unclosed
  | unbalanced
  | identifier
  | escape
  | grammar
  | unknownTag (name : String)
  | unknownFilter (name : String)
  | unknownTest (name : String)
  | loopAssigned
deriving Repr, DecidableEq

inductive Token where
  | text (s : String)
  | openValue
  | closeValue
  | openTag
  | closeTag
  | name (s : String)
  | str (s : String)
  | int (n : Nat)
  | float (x : Float)
  | sign (s : String)
deriving Repr, DecidableEq, Inhabited

namespace Token

def unifyLines : List Char → List Char
  | [] => []
  | '\r' :: '\n' :: rest => '\n' :: unifyLines rest
  | '\r' :: rest => '\n' :: unifyLines rest
  | c :: rest => c :: unifyLines rest

/-- One line end at the end of a template does not count. -/
def withoutLastLine (s : List Char) : List Char :=
  match s.reverse with
  | '\n' :: rest => rest.reverse
  | _ => s

/-- The text before the first opening of a tag, and the rest from there on. -/
def beforeTag : List Char → List Char × List Char
  | [] => ([], [])
  | '\x7b' :: c :: rest =>
    if c = '\x7b' || c = '%' || c = '#' then ([], '\x7b' :: c :: rest)
    else
      let (before, after) := beforeTag (c :: rest)
      ('\x7b' :: before, after)
  | c :: rest =>
    let (before, after) := beforeTag rest
    (c :: before, after)

def dropBlanks (s : List Char) : List Char := s.dropWhile Classes.isBlank

def after? : List Char → List Char → Option (List Char)
  | [], s => some s
  | c :: cs, d :: s => if c = d then after? cs s else none
  | _ :: _, [] => none

/-- A sign behind an opening: minus takes the blanks before the tag away, plus
keeps them. -/
def openingSign : List Char → Bool × List Char
  | '-' :: rest => (true, rest)
  | '+' :: rest => (false, rest)
  | rest => (false, rest)

/-- The close of a tag, which a minus extends over the blanks behind it. -/
def close? (plus : Bool) (mark : List Char) (s : List Char) : Option (List Char) :=
  match s with
  | '-' :: rest =>
    match after? mark rest with
    | some rest => some (dropBlanks rest)
    | none => none
  | '+' :: rest => if plus then after? mark rest else none
  | s => after? mark s

def afterComment? : List Char → Option (List Char)
  | [] => none
  | c :: rest =>
    match close? true ['#', '\x7d'] (c :: rest) with
    | some after => some after
    | none => afterComment? rest

def tagEnd : List Char := ['%', '\x7d']

/-- What follows the opening of a raw passage. -/
def rawStart? (s : List Char) : Option (List Char) :=
  let (_, rest) := openingSign s
  match after? ['r', 'a', 'w'] (dropBlanks rest) with
  | some rest => close? false tagEnd (dropBlanks rest)
  | none => none

/-- Whether a tag that ends a raw passage stands here: whether it takes the blanks
before it away, and what follows. -/
def rawEnd? (s : List Char) : Option (Bool × List Char) :=
  match s with
  | '\x7b' :: '%' :: rest =>
    let (strips, rest) := openingSign rest
    match after? ['e', 'n', 'd', 'r', 'a', 'w'] (dropBlanks rest) with
    | some rest => (close? true tagEnd (dropBlanks rest)).map (strips, ·)
    | none => none
  | _ => none

def rawPassage? : List Char → Option (List Char × Bool × List Char)
  | [] => none
  | c :: rest =>
    match rawEnd? (c :: rest) with
    | some (strips, after) => some ([], strips, after)
    | none =>
      match rawPassage? rest with
      | some (before, strips, after) => some (c :: before, strips, after)
      | none => none

def textToken (s : List Char) : List Token :=
  if s.isEmpty then [] else [.text (String.ofList s)]

/-- Digits between which single low lines can stand, as many as there are. -/
def digitRun (isOne : Char → Bool) : List Char → List Char × List Char
  | [] => ([], [])
  | [c] => if isOne c then ([c], []) else ([], [c])
  | c :: d :: rest =>
    if isOne c then
      let (more, after) := digitRun isOne (d :: rest)
      if d = '_' then
        match rest with
        | e :: _ => if isOne e then (c :: more, after) else ([c], d :: rest)
        | [] => ([c], d :: rest)
      else (c :: more, after)
    else if c = '_' && isOne d then
      let (more, after) := digitRun isOne (d :: rest)
      (more, after)
    else ([], c :: d :: rest)

def runOf (isOne : Char → Bool) (s : List Char) : List Char × List Char :=
  match s with
  | c :: _ => if isOne c then digitRun isOne s else ([], s)
  | [] => ([], [])

def digitOf (c : Char) : Nat :=
  match Classes.digitValue? c with
  | some v => v
  | none => if c ≤ 'F' then c.toNat - 55 else c.toNat - 87

def numeral (base : Nat) (digits : List Char) : Nat :=
  digits.foldl (fun acc c => acc * base + digitOf c) 0

def exponent? : List Char → Option (Int × List Char)
  | e :: rest =>
    if e = 'e' || e = 'E' then
      let (negative, rest) := match rest with
        | '-' :: r => (true, r)
        | '+' :: r => (false, r)
        | r => (false, r)
      match runOf Classes.isDigit rest with
      | ([], _) => none
      | (digits, rest) =>
        let n : Int := numeral 10 digits
        some (if negative then -n else n, rest)
    else none
  | [] => none

def float? (s : List Char) : Option (Token × List Char) :=
  match runOf Classes.isDigit s with
  | ([], _) => none
  | (whole, rest) =>
    let places := match rest with
      | '.' :: r => (runOf Classes.isDigit r).1
      | _ => []
    let behind := match rest with
      | '.' :: r => (runOf Classes.isDigit r).2
      | r => r
    let value (digits : List Char) (power : Int) : Token :=
      .float (Binary.ofDecimal false (numeral 10 digits) power)
    if places.isEmpty then
      match exponent? rest with
      | some (power, rest) => some (value whole power, rest)
      | none => none
    else
      let count : Int := places.length
      match exponent? behind with
      | some (power, rest) => some (value (whole ++ places) (power - count), rest)
      | none => some (value (whole ++ places) (-count), behind)

def isBinaryDigit (c : Char) : Bool := c = '0' || c = '1'

def isOctalDigit (c : Char) : Bool := '0' ≤ c && c ≤ '7'

def isHexDigit (c : Char) : Bool :=
  Classes.isDigit c || ('a' ≤ c && c ≤ 'f') || ('A' ≤ c && c ≤ 'F')

/-- Digits of another base, which a low line can precede. -/
def basedDigits (isOne : Char → Bool) (s : List Char) : List Char × List Char :=
  match s with
  | '_' :: rest =>
    match runOf isOne rest with
    | ([], _) => ([], s)
    | found => found
  | _ => runOf isOne s

/-- A whole number; a zero in front stands alone unless it names a base. -/
def integer? (s : List Char) : Option (Token × List Char) :=
  let based (base : Nat) (isOne : Char → Bool) (rest : List Char) : Option (Token × List Char) :=
    match basedDigits isOne rest with
    | ([], _) => none
    | (digits, rest) => some (.int (numeral base digits), rest)
  let zero : Option (Token × List Char) :=
    match runOf (· = '0') s with
    | ([], _) => none
    | (_, rest) => some (.int 0, rest)
  match s with
  | '0' :: mark :: rest =>
    let found :=
      if mark = 'b' || mark = 'B' then based 2 isBinaryDigit rest
      else if mark = 'o' || mark = 'O' then based 8 isOctalDigit rest
      else if mark = 'x' || mark = 'X' then based 16 isHexDigit rest
      else none
    match found with
    | some r => some r
    | none => zero
  | c :: _ =>
    if '1' ≤ c && c ≤ '9' then
      let (digits, rest) := runOf Classes.isDigit s
      some (.int (numeral 10 digits), rest)
    else zero
  | [] => none

/-- The inside of a quoted literal and what follows its closing mark. -/
def quoted? (mark : Char) : List Char → Option (List Char × List Char)
  | [] => none
  | '\\' :: c :: rest => do
    let (inside, after) ← quoted? mark rest
    some ('\\' :: c :: inside, after)
  | c :: rest =>
    if c = mark then some ([], rest)
    else if c = '\\' then none
    else do
      let (inside, after) ← quoted? mark rest
      some (c :: inside, after)

def hexEscape (mark : Char) (width n : Nat) : List Char :=
  let digit (k : Nat) : Char := Char.ofNat (if k < 10 then 48 + k else 87 + k)
  let rec digits : Nat → Nat → List Char
    | 0, _ => []
    | w + 1, k => digits w (k / 16) ++ [digit (k % 16)]
  '\\' :: mark :: digits width n

/-- Characters beyond ASCII as escapes of their code points, so that an escape
before one of them ends at its backslash. -/
def asciiOnly (s : List Char) : List Char :=
  s.flatMap fun c =>
    let n := c.toNat
    if n < 0x80 then [c]
    else if n < 0x100 then hexEscape 'x' 2 n
    else if n < 0x10000 then hexEscape 'u' 4 n
    else hexEscape 'U' 8 n

def asciiHex? (c : Char) : Option Nat :=
  if '0' ≤ c && c ≤ '9' then some (c.toNat - 48)
  else if 'a' ≤ c && c ≤ 'f' then some (c.toNat - 87)
  else if 'A' ≤ c && c ≤ 'F' then some (c.toNat - 55)
  else none

def hexCode? : Nat → Nat → List Char → Option (Nat × List Char)
  | 0, acc, rest => some (acc, rest)
  | width + 1, acc, c :: rest => do
    let d ← asciiHex? c
    hexCode? width (acc * 16 + d) rest
  | _ + 1, _, [] => none

def scalar? (n : Nat) : Option Char :=
  if n < 0xD800 || (0xE000 ≤ n && n < 0x110000) then some (Char.ofNat n) else none

/-- Escapes read away. An unknown escape stands for itself; a number that is too
short or no character is at fault. -/
def unescape : Nat → List Char → Option (List Char)
  | 0, _ => none
  | n + 1, s =>
    let coded (width : Nat) (rest : List Char) : Option (List Char) := do
      let (code, rest) ← hexCode? width 0 rest
      let c ← scalar? code
      let tail ← unescape n rest
      some (c :: tail)
    match s with
    | [] => some []
    | ['\\'] => none
    | '\\' :: e :: rest =>
      let plain (c : Char) : Option (List Char) := (unescape n rest).map (c :: ·)
      if e = '\n' then unescape n rest
      else if e = '\\' || e = '\'' || e = '"' then plain e
      else if e = 'a' then plain (Char.ofNat 7)
      else if e = 'b' then plain (Char.ofNat 8)
      else if e = 'f' then plain (Char.ofNat 12)
      else if e = 'n' then plain '\n'
      else if e = 'r' then plain '\r'
      else if e = 't' then plain '\t'
      else if e = 'v' then plain (Char.ofNat 11)
      else if e = 'x' then coded 2 rest
      else if e = 'u' then coded 4 rest
      else if e = 'U' then coded 8 rest
      else if e = 'N' then none
      else if isOctalDigit e then
        let digits := e :: (rest.takeWhile isOctalDigit).take 2
        let rest := rest.drop (digits.length - 1)
        (unescape n rest).map (Char.ofNat (numeral 8 digits) :: ·)
      else (unescape n rest).map fun tail => '\\' :: e :: tail
    | c :: rest => (unescape n rest).map (c :: ·)

def longSigns : List (List Char) :=
  [['/', '/'], ['*', '*'], ['=', '='], ['!', '='], ['>', '='], ['<', '=']]

def shortSigns : List Char :=
  ['+', '-', '/', '*', '%', '~', '[', ']', '(', ')', '\x7b', '\x7d', '>', '<', '=', '.', ':', '|',
    ',', ';']

def sign? (s : List Char) : Option (List Char × List Char) :=
  match longSigns.find? fun l => l.isPrefixOf s with
  | some l => some (l, s.drop 2)
  | none =>
    match s with
    | c :: rest => if shortSigns.contains c then some ([c], rest) else none
    | [] => none

def closing? : Char → Option Char
  | '(' => some ')'
  | '[' => some ']'
  | '\x7b' => some '\x7d'
  | _ => none

/-- The brackets still open after a sign, the innermost first. -/
def balance (opened : List Char) (mark : List Char) : Except Fault (List Char) :=
  match mark with
  | [c] =>
    match closing? c with
    | some close => .ok (close :: opened)
    | none =>
      if c = ')' || c = ']' || c = '\x7d' then
        match opened with
        | close :: rest => if close = c then .ok rest else .error .unbalanced
        | [] => .error .unbalanced
      else .ok opened
  | _ => .ok opened

/-- The tokens inside a tag, up to its close, and the rest behind that; an end
of the text inside the tag is left to the grammar. Brackets that are open hide the
close. -/
def inside (value : Bool) (opened : List Char) (previous : Char) :
    Nat → List Char → Except Fault (List Token × List Char)
  | 0, _ => .error .character
  | n + 1, s =>
    let closed := if opened.isEmpty then
        if value then close? false ['\x7d', '\x7d'] s else close? true tagEnd s
      else none
    match closed with
    | some rest => .ok ([if value then .closeValue else .closeTag], rest)
    | none =>
      match s with
      | [] => .ok ([], [])
      | c :: rest =>
        let lastOf (after : List Char) : Char := (s.take (s.length - after.length)).getLast?.getD c
        let go (t : Token) (after : List Char) : Except Fault (List Token × List Char) :=
          (inside value opened (lastOf after) n after).map fun (ts, r) => (t :: ts, r)
        if Classes.isBlank c then inside value opened ' ' n rest
        else
          let number := match (if previous = '.' then none else float? s) with
            | some found => some found
            | none => integer? s
          match number with
          | some (t, after) => go t after
          | none =>
            if Classes.isWord c then
              let name := s.takeWhile Classes.isWord
              if Identifier.isIdentifier name then
                go (.name (String.ofList name)) (s.dropWhile Classes.isWord)
              else .error .identifier
            else if c = '\'' || c = '"' then
              match quoted? c rest with
              | none => .error .character
              | some (body, after) =>
                match unescape (10 * body.length + 1) (asciiOnly body) with
                | some value => go (.str (String.ofList value)) after
                | none => .error .escape
            else
              match sign? s with
              | none => .error .character
              | some (mark, after) => do
                let opened ← balance opened mark
                (inside value opened (lastOf after) n after).map fun (ts, r) =>
                  (.sign (String.ofList mark) :: ts, r)

def outside : Nat → List Char → Except Fault (List Token)
  | 0, _ => .error .character
  | n + 1, s =>
    let (before, rest) := beforeTag s
    match rest with
    | _ :: kind :: rest =>
      let (strips, body) := openingSign rest
      let lead := textToken (if strips then Classes.stripRight before else before)
      if kind = '#' then
        match afterComment? body with
        | some after => (outside n after).map (lead ++ ·)
        | none => if body.isEmpty then .ok lead else .error .unclosed
      else if kind = '%' then
        match rawStart? rest with
        | some passage =>
          match rawPassage? passage with
          | some (raw, rawStrips, after) =>
            let raw := if rawStrips then Classes.stripRight raw else raw
            (outside n after).map (lead ++ textToken raw ++ ·)
          | none => if passage.isEmpty then .ok lead else .error .unclosed
        | none => do
          let (ts, after) ← inside false [] ' ' (body.length + 1) body
          (outside n after).map (lead ++ .openTag :: ts ++ ·)
      else do
        let (ts, after) ← inside true [] ' ' (body.length + 1) body
        (outside n after).map (lead ++ .openValue :: ts ++ ·)
    | _ => .ok (textToken (before ++ rest))

def ofText (s : List Char) : Except Fault (List Token) :=
  let s := withoutLastLine (unifyLines s)
  outside (s.length + 1) s

end Token
end Template
end MetricPaths
