import MetricPaths.Yaml.Place
import MetricPaths.Text.Utf8

/-! Scalars as they are written: plain, between quotes, and as blocks of lines. -/
namespace MetricPaths
namespace Yaml
namespace Cut

def hexValue? (c : Char) : Option Nat :=
  if '0' ≤ c && c ≤ '9' then some (c.toNat - 48)
  else if 'A' ≤ c && c ≤ 'F' then some (c.toNat - 55)
  else if 'a' ≤ c && c ≤ 'f' then some (c.toNat - 87)
  else none

def hexNumber (count : Nat) : Cut Nat := do
  let digits := (← get).place.rest.take count
  if digits.length < count then fail
  match digits.mapM hexValue? with
  | some ds =>
    forward count
    return ds.foldl (fun acc d => acc * 16 + d) 0
  | none => fail

/-- Lines of nothing but blanks inside quotes; documents end in none of them. -/
def quotedBreaks : Nat → Cut (List Char)
  | 0 => fail
  | n + 1 => do
    if ← atSeparator then fail
    let _ ← takeWhile fun c => c = ' ' || c = '\t'
    match ← lineBreak with
    | some c => return c :: (← quotedBreaks n)
    | none => return []

/-- What the end of a line becomes: a blank, or the empty lines behind it. -/
def folded (end_ : Char) (empty : List Char) : List Char :=
  if end_ ≠ '\n' then end_ :: empty
  else if empty.isEmpty then [' ']
  else empty

def escapes : List (Char × Nat) :=
  [('0', 0), ('a', 7), ('b', 8), ('t', 9), ('\t', 9), ('n', 10), ('v', 11), ('f', 12), ('r', 13),
    ('e', 27), (' ', 32), ('"', 34), ('\\', 92), ('/', 47), ('N', 0x85), ('_', 0xA0),
    ('L', 0x2028), ('P', 0x2029)]

/-- The character of a code point that was written as a number. Reading stops at a surrogate, which
is no character by itself. -/
def charOf (code : Nat) : Cut Char :=
  if code ≥ 0x80000000 then throw (.accident .overflow)
  else if code > 0x10FFFF then throw (.accident .value)
  else if 0xD800 ≤ code && code ≤ 0xDFFF then throw (.accident (.other "UnicodeEncodeError"))
  else return Char.ofNat code

def escaped (limit : Nat) : Cut (List Char) := do
  match ← peek 0 with
  | none => fail
  | some c =>
    match escapes.lookup c with
    | some code => do
      forward 1
      return [Char.ofNat code]
    | none =>
      let count := if c = 'x' then 2 else if c = 'u' then 4 else if c = 'U' then 8 else 0
      if count > 0 then
        forward 1
        return [← charOf (← hexNumber count)]
      else if isBreak c then
        let _ ← lineBreak
        quotedBreaks limit
      else fail

def quotedTail (double : Bool) (limit : Nat) : Nat → Cut (List Char)
  | 0 => fail
  | n + 1 => do
    let isPlain (c : Char) : Bool :=
      c ≠ '\'' && c ≠ '"' && c ≠ '\\' && c ≠ ' ' && c ≠ '\t' && !isBreak c
    let here ← takeWhile isPlain
    match ← peek 0 with
    | none => fail
    | some '\'' =>
      if double then
        forward 1
        return here ++ '\'' :: (← quotedTail double limit n)
      else
        forward 1
        if (← peek 0) = some '\'' then
          forward 1
          return here ++ '\'' :: (← quotedTail double limit n)
        else return here
    | some '"' =>
      forward 1
      if double then return here
      else return here ++ '"' :: (← quotedTail double limit n)
    | some '\\' =>
      forward 1
      if double then
        let cs ← escaped limit
        return here ++ cs ++ (← quotedTail double limit n)
      else return here ++ '\\' :: (← quotedTail double limit n)
    | some _ =>
      let blanks ← takeWhile fun c => c = ' ' || c = '\t'
      if (← peek 0).isNone then fail
      match ← lineBreak with
      | none => return here ++ blanks ++ (← quotedTail double limit n)
      | some c =>
        let empty ← quotedBreaks limit
        return here ++ folded c empty ++ (← quotedTail double limit n)

def quotedScalar (double : Bool) : Cut Unit := do
  forward 1
  let limit := (← get).place.rest.length + 1
  let s ← quotedTail double limit limit
  push (.scalar (String.ofList s) false)

/-- Empty lines inside a plain scalar; none if a document ends there. -/
def plainBreaks : Nat → Cut (Option (List Char))
  | 0 => fail
  | n + 1 => do
    skipBlanks
    match ← lineBreak with
    | none => return some []
    | some c =>
      if ← atSeparator then return none
      return (← plainBreaks n).map (c :: ·)

/-- What stands between two parts of a plain scalar; nothing where it cannot go on. -/
def plainSpaces (limit : Nat) : Cut (List Char) := do
  let blanks ← takeWhile (· = ' ')
  match ← lineBreak with
  | none => return blanks
  | some c =>
    allowKey true
    if ← atSeparator then return []
    match ← plainBreaks limit with
    | none => return []
    | some empty => return folded c empty

def plainEnds (inFlow : Bool) (c : Char) (after : Option Char) : Bool :=
  isGap (some c) ||
    (c = ':' && (isGap after || (inFlow && after.any [',', '[', ']', '\x7b', '\x7d'].contains))) ||
    (inFlow && [',', '?', '[', ']', '\x7b', '\x7d'].contains c)

/-- The part of a plain scalar before the next blank or sign. -/
def plainPart (inFlow : Bool) : List Char → List Char
  | [] => []
  | c :: rest => if plainEnds inFlow c rest.head? then [] else c :: plainPart inFlow rest

def plainTail (limit : Nat) (spaces : List Char) : Nat → Cut (List Char)
  | 0 => fail
  | n + 1 => do
    let s ← get
    if s.place.rest.head? = some '#' then return []
    let part := plainPart (s.flow ≠ 0) s.place.rest
    if part.isEmpty then return []
    allowKey false
    forward part.length
    let more ← plainSpaces limit
    let after ← get
    if more.isEmpty || after.place.rest.head? = some '#' ||
        (after.flow = 0 && (after.place.column : Int) < after.indent + 1) then
      return spaces ++ part
    return spaces ++ part ++ (← plainTail limit more n)

def plainScalar : Cut Unit := do
  let limit := (← get).place.rest.length + 1
  let s ← plainTail limit [] limit
  push (.scalar (String.ofList s) true)

inductive Chomping where
  | clip
  | strip
  | keep

def chomping? : Option Char → Option Chomping
  | some '+' => some .keep
  | some '-' => some .strip
  | _ => none

def indentation? (c : Option Char) : Cut (Option Nat) :=
  match c with
  | some c =>
    if c = '0' then fail
    else if '1' ≤ c && c ≤ '9' then return some (c.toNat - 48)
    else return none
  | none => return none

def blockSigns : Cut (Chomping × Option Nat) := do
  match chomping? (← peek 0) with
  | some chomping =>
    forward 1
    let indentation ← indentation? (← peek 0)
    if indentation.isSome then forward 1
    return (chomping, indentation)
  | none =>
    match ← indentation? (← peek 0) with
    | none => return (.clip, none)
    | some i =>
      forward 1
      match chomping? (← peek 0) with
      | some chomping =>
        forward 1
        return (chomping, some i)
      | none => return (.clip, some i)

def endOfLine : Cut Unit := do
  skipBlanks
  if (← peek 0) = some '#' then
    let _ ← takeWhile fun c => !isBreak c
  if !isLineEnd (← peek 0) then fail
  let _ ← lineBreak

/-- Empty lines, and the widest indentation among them and before the first text. -/
def leadingLines (widest : Nat) : Nat → Cut (List Char × Nat)
  | 0 => fail
  | n + 1 => do
    skipBlanks
    let widest := max widest (← get).place.column
    match ← lineBreak with
    | some c => do
      let (more, widest) ← leadingLines widest n
      return (c :: more, widest)
    | none => return ([], widest)

/-- Empty lines of a block scalar with a known indentation. -/
def emptyLines (indent : Nat) : Nat → Cut (List Char)
  | 0 => fail
  | n + 1 => do
    let p ← place
    let blanks := ((p.rest.takeWhile (· = ' ')).take (indent - p.column)).length
    forward blanks
    match ← lineBreak with
    | some c => return c :: (← emptyLines indent n)
    | none => return []

/-- The lines of a block scalar, their ends folded or as they are; with the last
end of a line and the empty lines behind it. -/
def blockLines (fold : Bool) (indent limit : Nat) (empty : List Char) :
    Nat → Cut (List Char × List Char × List Char)
  | 0 => fail
  | n + 1 => do
    let startsWithText := !((← peek 0).any fun c => c = ' ' || c = '\t')
    let line ← takeWhile fun c => !isBreak c
    let lineEnd := (← lineBreak).toList
    let after ← emptyLines indent limit
    let p ← place
    if p.column = indent && !p.rest.isEmpty then
      let nextIsText := !(p.rest.head?.any fun c => c = ' ' || c = '\t')
      let joint :=
        if fold && lineEnd = ['\n'] && startsWithText && nextIsText then
          if after.isEmpty then [' '] else []
        else lineEnd
      let (more, last, tail) ← blockLines fold indent limit after n
      return (empty ++ line ++ joint ++ more, last, tail)
    else return (empty ++ line, lineEnd, after)

def blockScalar (fold : Bool) : Cut Unit := do
  let limit := (← get).place.rest.length + 2
  forward 1
  let (chomping, indentation) ← blockSigns
  if !isLineEnd (← peek 0) && (← peek 0) ≠ some ' ' then fail
  endOfLine
  let least := ((← get).indent + 1).toNat.max 1
  let (indent, empty) ← match indentation with
    | none => do
      let (empty, widest) ← leadingLines 0 limit
      pure (max least widest, empty)
    | some i => do
      let indent := least + i - 1
      pure (indent, ← emptyLines indent limit)
  let p ← place
  let (text, last, tail) ←
    if p.column = indent && !p.rest.isEmpty then blockLines fold indent limit empty limit
    else pure ([], [], empty)
  let ending := match chomping with
    | .strip => []
    | .clip => last
    | .keep => last ++ tail
  push (.scalar (String.ofList (text ++ ending)) false)

end Cut
end Yaml
end MetricPaths
