import MetricPaths.Failure

/-! The tokens of a YAML document, a place in its text, and the state of cutting the
text into tokens. -/
namespace MetricPaths
namespace Yaml

/-- Why a text is no document of plain values: it is malformed, or a scalar is not
what its tag says. -/
inductive Fault where
  | malformed
  | accident (a : Accident)
deriving Repr, DecidableEq

inductive Directive where
  | version (major : Nat)
  | tag (handle lead : String)
  | other
deriving Repr, DecidableEq

inductive Token where
  | directive (d : Directive)
  | documentStart
  | documentEnd
  | streamEnd
  | blockSequenceStart
  | blockMappingStart
  | blockEnd
  | flowSequenceStart
  | flowSequenceEnd
  | flowMappingStart
  | flowMappingEnd
  | blockEntry
  | flowEntry
  | key
  | value
  | alias (name : String)
  | anchor (name : String)
  | tag (handle : Option String) (suffix : String)
  | scalar (text : String) (plain : Bool)
deriving Repr, DecidableEq

end Yaml

namespace Yaml

def byteOrderMark : Char := Char.ofNat 0xFEFF

def isAllowed (c : Char) : Bool :=
  let n := c.toNat
  n = 9 || n = 10 || n = 13 || (0x20 ≤ n && n ≤ 0x7E) || n = 0x85 || (0xA0 ≤ n && n ≤ 0xFFFD) ||
    0x10000 ≤ n

def isBreak (c : Char) : Bool := c = '\n' || [0x85, 0x2028, 0x2029].contains c.toNat

def isGap : Option Char → Bool
  | none => true
  | some c => c = ' ' || c = '\t' || isBreak c

def isLineEnd : Option Char → Bool
  | none => true
  | some c => isBreak c

structure Place where
  rest : List Char
  index : Nat
  line : Nat
  column : Nat

namespace Place

def ofText (s : List Char) : Place := ⟨s, 0, 0, 0⟩

/-- The next place. A byte order mark takes no column. -/
def next (p : Place) : Place :=
  match p.rest with
  | [] => p
  | c :: rest =>
    if isBreak c then ⟨rest, p.index + 1, p.line + 1, 0⟩
    else ⟨rest, p.index + 1, p.line, if c = byteOrderMark then p.column else p.column + 1⟩

def forward : Nat → Place → Place
  | 0, p => p
  | n + 1, p => forward n p.next

end Place

/-- A token that would be the key of a mapping if a colon followed on its line. A key
is required where a block mapping goes on. -/
structure PossibleKey where
  token : Nat
  required : Bool
  index : Nat
  line : Nat
  column : Nat

/-- `indent` is the column of the block at hand, −1 outside all blocks, and `outer`
those of the blocks around it; `flow` counts open brackets. -/
structure Cutting where
  place : Place
  tokens : Array Token
  indent : Int
  outer : List Int
  flow : Nat
  keyAllowed : Bool
  keys : List (Nat × PossibleKey)

abbrev Cut := StateT Cutting (Except Fault)

namespace Cut

def fail {α : Type} : Cut α := throw .malformed

def place : Cut Place := do return (← get).place

def peek (n : Nat) : Cut (Option Char) := do return (← get).place.rest[n]?

def forward (n : Nat) : Cut Unit := modify fun s => { s with place := s.place.forward n }

def takeWhile (isOne : Char → Bool) : Cut (List Char) := do
  let found := (← get).place.rest.takeWhile isOne
  forward found.length
  return found

def skipBlanks : Cut Unit := do let _ ← takeWhile (· = ' ')

/-- Goes past the end of a line, which is written as one character. -/
def lineBreak : Cut (Option Char) := do
  match ← peek 0 with
  | some c =>
    if isBreak c then
      forward 1
      return some (if c.toNat = 0x85 then '\n' else c)
    else return none
  | none => return none

def atSeparator : Cut Bool := do
  let mark := (← get).place.rest.take 3
  return (mark = ['-', '-', '-'] || mark = ['.', '.', '.']) && isGap (← peek 3)

def push (t : Token) : Cut Unit := modify fun s => { s with tokens := s.tokens.push t }

def insertAt (i : Nat) (ts : List Token) : Cut Unit :=
  modify fun s =>
    { s with tokens := s.tokens.extract 0 i ++ ts.toArray ++ s.tokens.extract i s.tokens.size }

def allowKey (allowed : Bool) : Cut Unit := modify fun s => { s with keyAllowed := allowed }

/-- Keys end with their line and after 1024 characters. -/
def dropStaleKeys : Cut Unit := do
  let s ← get
  let isStale (k : PossibleKey) : Bool := k.line ≠ s.place.line || s.place.index - k.index > 1024
  if s.keys.any fun k => isStale k.2 && k.2.required then fail
  set { s with keys := s.keys.filter fun k => !isStale k.2 }

def dropKey : Cut Unit := do
  let s ← get
  if s.keys.any fun k => k.1 = s.flow && k.2.required then fail
  set { s with keys := s.keys.filter (·.1 ≠ s.flow) }

/-- Notes that the next token may be a key. -/
def noteKey : Cut Unit := do
  if (← get).keyAllowed then
    dropKey
    modify fun s =>
      let k : PossibleKey :=
        ⟨s.tokens.size, s.flow = 0 && s.indent = s.place.column, s.place.index, s.place.line, s.place.column⟩
      { s with keys := (s.flow, k) :: s.keys }

/-- Ends the blocks that are further in than a column. -/
def unwind (column : Int) : Cut Unit :=
  modify fun s =>
    if s.flow ≠ 0 then s
    else
      let rec go (indent : Int) (tokens : Array Token) : List Int → Int × List Int × Array Token
        | [] => (indent, [], tokens)
        | i :: outer =>
          if indent > column then go i (tokens.push .blockEnd) outer else (indent, i :: outer, tokens)
      let (indent, outer, tokens) := go s.indent s.tokens s.outer
      { s with indent := indent, outer := outer, tokens := tokens }

/-- Begins a block at a column if it is further in than the block at hand. -/
def indentTo (column : Nat) : Cut Bool := do
  let s ← get
  if s.indent < column then
    set { s with indent := column, outer := s.indent :: s.outer }
    return true
  else return false

end Cut
end Yaml
end MetricPaths
