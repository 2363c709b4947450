import MetricPaths.Yaml.Scalar

/-! Cutting a document into tokens. What is a key shows only at the colon behind it,
so the tokens that announce a key are put in later. -/
namespace MetricPaths
namespace Yaml
namespace Cut

def isNameChar (c : Char) : Bool :=
  ('0' ≤ c && c ≤ '9') || ('A' ≤ c && c ≤ 'Z') || ('a' ≤ c && c ≤ 'z') || c = '-' || c = '_'

def isUriChar (c : Char) : Bool :=
  isNameChar c || [';', '/', '?', ':', '@', '&', '=', '+', '$', ',', '.', '!', '~', '*', '\'', '(',
    ')', '[', ']'].contains c

def uriBytes : Nat → Cut (List UInt8)
  | 0 => fail
  | n + 1 => do
    if (← peek 0) = some '%' then
      forward 1
      let b ← hexNumber 2
      return UInt8.ofNat b :: (← uriBytes n)
    else return []

def uriTail : Nat → Cut (List Char)
  | 0 => fail
  | n + 1 => do
    let here ← takeWhile isUriChar
    if (← peek 0) = some '%' then
      match Utf8.decode (← uriBytes (← get).place.rest.length) with
      | .ok cs => return here ++ cs ++ (← uriTail n)
      | .error _ => fail
    else return here

def uri : Cut String := do
  if !(← peek 0).any fun c => isUriChar c || c = '%' then fail
  return String.ofList (← uriTail ((← get).place.rest.length + 1))

/-- A handle is one exclamation mark, or two with a name between them. -/
def tagHandle : Cut String := do
  if (← peek 0) ≠ some '!' then fail
  if (← peek 1) = some ' ' then
    forward 1
    return "!"
  else
    let name := ((← get).place.rest.drop 1).takeWhile isNameChar
    if (← peek (name.length + 1)) ≠ some '!' then fail
    forward (name.length + 2)
    return "!" ++ String.ofList name ++ "!"

def isBlankOrEnd (c : Option Char) : Bool := c = some ' ' || isLineEnd c

/-- A tag: what is left of it has to be found through its handle, if it has one. -/
def tag : Cut Unit := do
  let after ← peek 1
  let (handle, suffix) ←
    if after = some '<' then do
      forward 2
      let suffix ← uri
      if (← peek 0) ≠ some '>' then fail
      forward 1
      pure (none, suffix)
    else if isGap after then do
      forward 1
      pure (none, "!")
    else do
      let word := ((← get).place.rest.drop 1).takeWhile fun c => c ≠ ' ' && !isBreak c
      let handle ← if word.contains '!' then tagHandle else do
        forward 1
        pure "!"
      pure (some handle, ← uri)
  if !isBlankOrEnd (← peek 0) then fail
  push (.tag handle suffix)

def anchorName : Cut String := do
  forward 1
  let name ← takeWhile isNameChar
  if name.isEmpty then fail
  let after ← peek 0
  let closes := after.any ['?', ':', ',', ']', '\x7d', '%', '@', '\x60'].contains
  if !isGap after && !closes then fail
  return String.ofList name

def decimal : Cut Nat := do
  let digits ← takeWhile fun c => '0' ≤ c && c ≤ '9'
  if digits.isEmpty then fail
  return digits.foldl (fun acc d => acc * 10 + (d.toNat - 48)) 0

def directive : Cut Unit := do
  forward 1
  let name ← takeWhile isNameChar
  if name.isEmpty || !isBlankOrEnd (← peek 0) then fail
  let found ← match String.ofList name with
    | "YAML" => do
      skipBlanks
      let major ← decimal
      if (← peek 0) ≠ some '.' then fail
      forward 1
      let _ ← decimal
      if !isBlankOrEnd (← peek 0) then fail
      pure (Directive.version major)
    | "TAG" => do
      skipBlanks
      let handle ← tagHandle
      if (← peek 0) ≠ some ' ' then fail
      skipBlanks
      let lead ← uri
      if !isBlankOrEnd (← peek 0) then fail
      pure (Directive.tag handle lead)
    | _ => do
      let _ ← takeWhile fun c => !isBreak c
      pure Directive.other
  endOfLine
  push (.directive found)

/-- Goes past blanks, comments and the ends of lines. Behind the end of a line a key
may begin, but not between brackets. -/
def toNextToken : Nat → Cut Unit
  | 0 => fail
  | n + 1 => do
    skipBlanks
    if (← peek 0) = some '#' then
      let _ ← takeWhile fun c => !isBreak c
    match ← lineBreak with
    | some _ =>
      if (← get).flow = 0 then allowKey true
      toNextToken n
    | none => return

def leaveBlocks : Cut Unit := do
  unwind (-1)
  dropKey
  allowKey false

def openBrackets (t : Token) : Cut Unit := do
  noteKey
  modify fun s => { s with flow := s.flow + 1, keyAllowed := true }
  forward 1
  push t

def closeBrackets (t : Token) : Cut Unit := do
  dropKey
  modify fun s => { s with flow := s.flow - 1, keyAllowed := false }
  forward 1
  push t

/-- An entry or a key of a block; the first of them begins the block. -/
def beginBlock (start : Token) : Cut Unit := do
  let s ← get
  if s.flow = 0 then
    if !s.keyAllowed then fail
    if ← indentTo s.place.column then push start

def blockEntry : Cut Unit := do
  beginBlock .blockSequenceStart
  allowKey true
  dropKey
  forward 1
  push .blockEntry

def explicitKey : Cut Unit := do
  beginBlock .blockMappingStart
  allowKey ((← get).flow = 0)
  dropKey
  forward 1
  push .key

/-- A colon: what was noted before it is a key after all. -/
def valueSign : Cut Unit := do
  let s ← get
  match s.keys.lookup s.flow with
  | some k =>
    set { s with keys := s.keys.filter (·.1 ≠ s.flow) }
    let begins ← if s.flow = 0 then indentTo k.column else pure false
    insertAt k.token (if begins then [.blockMappingStart, .key] else [.key])
    allowKey false
  | none =>
    beginBlock .blockMappingStart
    allowKey ((← get).flow = 0)
    dropKey
  forward 1
  push .value

def isPlainStart (inFlow : Bool) (c : Char) (after : Option Char) : Bool :=
  let isSign := ['-', '?', ':', ',', '[', ']', '\x7b', '\x7d', '#', '&', '*', '!', '|', '>', '\'', '"',
    '%', '@', '\x60'].contains c
  (!isGap (some c) && !isSign) ||
    (!isGap after && (c = '-' || (!inFlow && (c = '?' || c = ':'))))

def token : Cut Bool := do
  toNextToken ((← get).place.rest.length + 1)
  dropStaleKeys
  unwind (← place).column
  let s ← get
  let inFlow := s.flow ≠ 0
  let after ← peek 1
  match ← peek 0 with
  | none =>
    leaveBlocks
    push .streamEnd
    return true
  | some c =>
    let separates ← if s.place.column = 0 then atSeparator else pure false
    if c = '%' && s.place.column = 0 then
      leaveBlocks
      directive
    else if separates then
      leaveBlocks
      forward 3
      push (if c = '-' then .documentStart else .documentEnd)
    else if c = '[' then openBrackets .flowSequenceStart
    else if c = '\x7b' then openBrackets .flowMappingStart
    else if c = ']' then closeBrackets .flowSequenceEnd
    else if c = '\x7d' then closeBrackets .flowMappingEnd
    else if c = ',' then
      allowKey true
      dropKey
      forward 1
      push .flowEntry
    else if c = '-' && isGap after then blockEntry
    else if c = '?' && (inFlow || isGap after) then explicitKey
    else if c = ':' && (inFlow || isGap after) then valueSign
    else if c = '*' then
      noteKey
      allowKey false
      push (.alias (← anchorName))
    else if c = '&' then
      noteKey
      allowKey false
      push (.anchor (← anchorName))
    else if c = '!' then
      noteKey
      allowKey false
      tag
    else if (c = '|' || c = '>') && !inFlow then
      allowKey true
      dropKey
      blockScalar (c = '>')
    else if c = '\'' || c = '"' then
      noteKey
      allowKey false
      quotedScalar (c = '"')
    else if isPlainStart inFlow c after then
      noteKey
      allowKey false
      plainScalar
    else fail
    return false

def allTokens : Nat → Cut Unit
  | 0 => fail
  | n + 1 => do if ← token then return else allTokens n

end Cut

def Token.ofText (s : List Char) : Except Fault (List Token) :=
  if s.all isAllowed then
    let place := Place.ofText s
    let place := if s.head? = some byteOrderMark then place.next else place
    let start : Cutting := ⟨place, #[], -1, [], 0, true, []⟩
    match (Cut.allTokens (s.length + 2)).run start with
    | .ok (_, last) => .ok last.tokens.toList
    | .error fault => .error fault
  else .error .malformed

end Yaml
end MetricPaths
