import MetricPaths.Value

/-! JSON values, and their text on one line. Objects keep the order of their members; whole
numbers of any size are kept apart from floating-point numbers. The text is of printable ASCII
only: other characters are written as the escapes of their UTF-16 units. -/
namespace MetricPaths

inductive Json where
  | null
  | bool (b : Bool)
  | int (i : Int)
  | float (x : Float)
  | str (s : String)
  | arr (items : List Json)
  | obj (members : List (String × Json))
deriving Inhabited, Repr

namespace Json

def field? (name : String) : Json → Option Json
  | .obj members => (members.find? (·.1 = name)).map (·.2)
  | _ => none

mutual

/-- The document value that a JSON value spells. A member given again takes the
new value. -/
def toValue : Json → Value
  | .null => .null
  | .bool b => .bool b
  | .int i => .int i
  | .float x => .float x
  | .str s => .str s
  | .arr items => .list (toValues items)
  | .obj members => .map (Value.collect (toEntries members))

def toValues : List Json → List Value
  | [] => []
  | j :: rest => toValue j :: toValues rest

def toEntries : List (String × Json) → List (Value × Value)
  | [] => []
  | (k, j) :: rest => (.str k, toValue j) :: toEntries rest

end

end Json

namespace Json

def unitEscape (n : Nat) : List Char := '\\' :: 'u' :: Quoted.hex 4 n

/-- A character beyond the first plane is a pair of units. -/
def charText (c : Char) : List Char :=
  if c = '"' then ['\\', '"']
  else if c = '\\' then ['\\', '\\']
  else if c = '\n' then ['\\', 'n']
  else if c = '\r' then ['\\', 'r']
  else if c = '\t' then ['\\', 't']
  else if c.toNat = 8 then ['\\', 'b']
  else if c.toNat = 12 then ['\\', 'f']
  else if ' ' ≤ c && c ≤ '~' then [c]
  else if c.toNat < 0x10000 then unitEscape c.toNat
  else
    let m := c.toNat - 0x10000
    unitEscape (0xD800 + m / 0x400) ++ unitEscape (0xDC00 + m % 0x400)

def stringText (s : List Char) : List Char := '"' :: s.flatMap charText ++ ['"']

def floatText (x : Float) : String :=
  if x.isNaN then "NaN"
  else if x.isInf then (if x > 0.0 then "Infinity" else "-Infinity")
  else Shortest.text x

def separated : List (List Char) → List Char
  | [] => []
  | [one] => one
  | one :: rest => one ++ ',' :: ' ' :: separated rest

mutual

def chars : Json → List Char
  | .null => "null".toList
  | .bool b => (if b then "true" else "false").toList
  | .int i => (Int.repr i).toList
  | .float x => (floatText x).toList
  | .str s => stringText s.toList
  | .arr items => '[' :: separated (itemChars items) ++ [']']
  | .obj members => '\x7b' :: separated (memberChars members) ++ ['\x7d']

def itemChars : List Json → List (List Char)
  | [] => []
  | j :: rest => chars j :: itemChars rest

def memberChars : List (String × Json) → List (List Char)
  | [] => []
  | (k, j) :: rest => (stringText k.toList ++ ':' :: ' ' :: chars j) :: memberChars rest

end

def write (j : Json) : String := String.ofList (chars j)

end Json
end MetricPaths
