import MetricPaths.Pattern.Syntax
import MetricPaths.Text.Classes

/-! Reading a pattern from its text. -/
namespace MetricPaths
namespace Pattern

inductive Fault where
  | malformed
  /-- A number of repetitions is beyond what can be counted. -/
  | tooMany
  /-- The whole pattern is both over ASCII and over all characters. -/
  | mixedAlphabets
deriving Repr, DecidableEq

/-- A character, or a backslash with the one behind it. -/
inductive Piece where
  | plain (c : Char)
  | escaped (c : Char)
deriving Repr, DecidableEq

def Piece.chars : Piece → List Char
  | .plain c => [c]
  | .escaped c => ['\\', c]

def pieces : List Char → Except Fault (List Piece)
  | [] => .ok []
  | ['\\'] => .error .malformed
  | '\\' :: c :: rest => (pieces rest).map (.escaped c :: ·)
  | c :: rest => (pieces rest).map (.plain c :: ·)

structure Modes where
  ignoreCase : Bool
  multiLine : Bool
  dotAll : Bool
  verbose : Bool
  ascii : Bool
  full : Bool
  single : Bool
deriving Repr, DecidableEq

namespace Modes

def none : Modes := ⟨false, false, false, false, false, false, false⟩

def fold (m : Modes) : Fold :=
  if !m.ignoreCase then .exact else if m.ascii then .ascii else .full

def add (m n : Modes) : Modes :=
  ⟨m.ignoreCase || n.ignoreCase, m.multiLine || n.multiLine, m.dotAll || n.dotAll,
    m.verbose || n.verbose, m.ascii || n.ascii, m.full || n.full, m.single || n.single⟩

def remove (m n : Modes) : Modes :=
  ⟨m.ignoreCase && !n.ignoreCase, m.multiLine && !n.multiLine, m.dotAll && !n.dotAll,
    m.verbose && !n.verbose, m.ascii && !n.ascii, m.full && !n.full, m.single && !n.single⟩

def meets (m n : Modes) : Bool :=
  (m.ignoreCase && n.ignoreCase) || (m.multiLine && n.multiLine) || (m.dotAll && n.dotAll) ||
    (m.verbose && n.verbose) || (m.single && n.single)

/-- Modes inside a group that adds and removes some; a choice of alphabet
replaces the one outside. -/
def inside (m added removed : Modes) : Modes :=
  let m := if added.ascii || added.full then { m with ascii := false, full := false } else m
  (m.add added).remove removed

def ofLetter? : Char → Option Modes
  | 'i' => some { none with ignoreCase := true }
  | 'm' => some { none with multiLine := true }
  | 's' => some { none with dotAll := true }
  | 'x' => some { none with verbose := true }
  | 'a' => some { none with ascii := true }
  | 'u' => some { none with full := true }
  | 't' => some { none with single := true }
  | _ => Option.none

end Modes

/-- What a reader knows: the text that is left, the widths of the groups opened so
far (those still open have none yet), their names, the number of groups before the
outermost look behind that is open, the groups that conditions ask for by number,
and the modes set for the whole pattern. -/
structure Source where
  rest : List Piece
  groups : List (Option Width)
  names : List (String × Nat)
  behind : Option Nat
  asked : List Nat
  modes : Modes

abbrev Reading := StateT Source (Except Fault)

namespace Reading

def fail {α : Type} : Reading α := throw .malformed

def peek : Reading (Option Piece) := do return (← get).rest.head?

def next : Reading (Option Piece) := do
  let s ← get
  set { s with rest := s.rest.tail }
  return s.rest.head?

def take (c : Char) : Reading Bool := do
  if (← peek) = some (.plain c) then
    let _ ← next
    return true
  else return false

def expect (c : Char) : Reading Unit := do
  unless ← take c do fail

def takeUpTo (isMember : Char → Bool) : Nat → Reading (List Char)
  | 0 => return []
  | n + 1 => do
    match ← peek with
    | some (.plain c) =>
      if isMember c then
        let _ ← next
        return c :: (← takeUpTo isMember n)
      else return []
    | _ => return []

def until_ (close : Char) : Reading (List Char) := do
  let s ← get
  let name := s.rest.takeWhile (· ≠ .plain close)
  match s.rest.dropWhile (· ≠ .plain close) with
  | [] => fail
  | _ :: rest =>
    if name.isEmpty then fail
    else
      set { s with rest }
      return name.flatMap Piece.chars

end Reading
open Reading

def isHexDigit (c : Char) : Bool :=
  ('0' ≤ c && c ≤ '9') || ('a' ≤ c && c ≤ 'f') || ('A' ≤ c && c ≤ 'F')

def isOctalDigit (c : Char) : Bool := '0' ≤ c && c ≤ '7'

def digitOf (c : Char) : Nat :=
  if c ≤ '9' then c.toNat - 48 else if c ≤ 'F' then c.toNat - 55 else c.toNat - 87

def numeral (base : Nat) (digits : List Char) : Nat :=
  digits.foldl (fun acc c => acc * base + digitOf c) 0

def hexCode (count : Nat) : Reading Nat := do
  let digits ← takeUpTo isHexDigit count
  if digits.length = count then return numeral 16 digits else fail

def simpleEscape? : Char → Option Nat
  | 'a' => some 7
  | 'b' => some 8
  | 'f' => some 12
  | 'n' => some 10
  | 'r' => some 13
  | 't' => some 9
  | 'v' => some 11
  | '\\' => some 92
  | _ => none

def classEscape? (ascii : Bool) : Char → Option Member
  | 'd' => some (.klass .digit false ascii)
  | 'D' => some (.klass .digit true ascii)
  | 's' => some (.klass .blank false ascii)
  | 'S' => some (.klass .blank true ascii)
  | 'w' => some (.klass .word false ascii)
  | 'W' => some (.klass .word true ascii)
  | _ => none

/-- Escapes that give a code point by its number, alike inside and outside sets. -/
def codeEscape (c : Char) : Reading Nat := do
  if c = 'x' then hexCode 2
  else if c = 'u' then hexCode 4
  else if c = 'U' then
    let n ← hexCode 8
    if n < 0x110000 then return n else fail
  else if Classes.isAsciiLetter c || Classes.isAsciiDigit c then fail
  else return c.toNat

def memberEscape (modes : Modes) (c : Char) : Reading Member := do
  match simpleEscape? c, classEscape? modes.ascii c with
  | some n, _ => return .code n
  | none, some m => return m
  | none, none =>
    if isOctalDigit c then
      let n := numeral 8 (c :: (← takeUpTo isOctalDigit 2))
      if n > 0o377 then fail else return .code n
    else return .code (← codeEscape c)

def anchorEscape? (modes : Modes) : Char → Option Anchor
  | 'A' => some .textStart
  | 'Z' => some .textEnd
  | 'b' => some (.wordEdge false modes.ascii)
  | 'B' => some (.wordEdge true modes.ascii)
  | _ => none

def groupWidth? (s : Source) (index : Nat) : Option Width :=
  if index = 0 then none else (s.groups[index - 1]?).join

/-- Inside a look behind, only groups closed before it can be asked for. -/
def checkBehind (index : Nat) : Reading Unit := do
  let s ← get
  match s.behind with
  | none => return
  | some count => if (groupWidth? s index).isNone || index > count then fail else return

def sameAs (modes : Modes) (index : Nat) : Reading Node := do
  if (groupWidth? (← get) index).isNone then fail
  checkBehind index
  return .same modes.fold index

def digitEscape (modes : Modes) (c : Char) : Reading Node := do
  match ← peek with
  | some (.plain d) =>
    if Classes.isAsciiDigit d then
      let _ ← next
      if isOctalDigit c && isOctalDigit d then
        match ← peek with
        | some (.plain e) =>
          if isOctalDigit e then
            let _ ← next
            let n := numeral 8 [c, d, e]
            if n > 0o377 then fail else return .code modes.fold n
          else sameAs modes (numeral 10 [c, d])
        | _ => sameAs modes (numeral 10 [c, d])
      else sameAs modes (numeral 10 [c, d])
    else sameAs modes (numeral 10 [c])
  | _ => sameAs modes (numeral 10 [c])

def escape (modes : Modes) (c : Char) : Reading Node := do
  match anchorEscape? modes c, classEscape? modes.ascii c, simpleEscape? c with
  | some a, _, _ => return .anchor a
  | none, some m, _ => return .set modes.fold false [m]
  | none, none, some n => return .code modes.fold n
  | none, none, none =>
    if c = '0' then
      return .code modes.fold (numeral 8 (c :: (← takeUpTo isOctalDigit 2)))
    else if Classes.isAsciiDigit c then digitEscape modes c
    else return .code modes.fold (← codeEscape c)

def member (modes : Modes) : Piece → Reading Member
  | .plain c => return .code c.toNat
  | .escaped c => memberEscape modes c

/-- The members of a set up to its closing bracket, which counts as a member when
it comes first. -/
def members (modes : Modes) : Nat → List Member → Reading (List Member)
  | 0, _ => fail
  | fuel + 1, acc => do
    match ← next with
    | none => fail
    | some p =>
      if p = .plain ']' && !acc.isEmpty then return acc.reverse
      else
        let first ← member modes p
        if ← take '-' then
          match ← next with
          | none => fail
          | some q =>
            if q = .plain ']' then return (.code 45 :: first :: acc).reverse
            else
              let last ← member modes q
              match first, last with
              | .code low, .code high =>
                if high < low then fail else members modes fuel (.range low high :: acc)
              | _, _ => fail
        else members modes fuel (first :: acc)

def repeatLimit : Nat := 4294967295

def digitRun : Reading (List Char) := do
  let s ← get
  takeUpTo Classes.isAsciiDigit s.rest.length

/-- The mark behind a repetition: at most one of the two is part of it. -/
def greedMark : Reading Greed := do
  if ← take '?' then return .lazy
  if ← take '+' then return .possessive
  return .greedy

def bounds? : Reading (Option (Nat × Option Nat)) := do
  let start ← get
  if (← peek) = some (.plain '\x7d') then return none
  let low ← digitRun
  let high ← if ← take ',' then digitRun else pure low
  if ← take '\x7d' then
    let least := numeral 10 low
    if !low.isEmpty && least ≥ repeatLimit then throw .tooMany
    if high.isEmpty then return some (least, none)
    let most := numeral 10 high
    if most ≥ repeatLimit then throw .tooMany
    if most < least then fail
    return some (least, some most)
  else
    set start
    return none

/-- Letters for modes up to a character that is none; that one is given back. -/
def modeLetters : Nat → Char → Modes → Reading (Modes × Char)
  | 0, _, _ => fail
  | fuel + 1, c, acc => do
    match Modes.ofLetter? c with
    | none => fail
    | some m =>
      let acc := acc.add m
      if (m.ascii || m.full) && acc.ascii && acc.full then fail
      match ← next with
      | some (.plain d) =>
        if d = ')' || d = '-' || d = ':' then return (acc, d) else modeLetters fuel d acc
      | _ => fail

def removedLetters : Nat → Char → Modes → Reading Modes
  | 0, _, _ => fail
  | fuel + 1, c, acc => do
    match Modes.ofLetter? c with
    | none => fail
    | some m =>
      if m.ascii || m.full then fail
      let acc := acc.add m
      match ← next with
      | some (.plain d) => if d = ':' then return acc else removedLetters fuel d acc
      | _ => fail

/-- Modes for the whole pattern give nothing back; modes for one group give what
it adds and removes. -/
def modeChange (c : Char) : Reading (Option (Modes × Modes)) := do
  let fuel := (← get).rest.length + 1
  let (added, close) ← if c = '-' then pure (Modes.none, '-') else modeLetters fuel c .none
  if close = ')' then
    modify fun s => { s with modes := s.modes.add added }
    return none
  if added.single then fail
  let removed ← if close = '-' then
      match ← next with
      | some (.plain d) => removedLetters fuel d .none
      | _ => fail
    else pure Modes.none
  if removed.single || added.meets removed then fail
  return some (added, removed)

def openGroup (name : Option String) : Reading Nat := do
  let s ← get
  let index := s.groups.length + 1
  match name with
  | some n => if s.names.any (·.1 = n) then fail
  | none => pure ()
  set { s with
    groups := s.groups ++ [none]
    names := match name with
      | some n => (n, index) :: s.names
      | none => s.names }
  return index

def widthOf (s : Source) (node : Node) : Width :=
  node.width fun i => (groupWidth? s i).getD .zero

def closeGroup (index : Nat) (body : Node) : Reading Unit :=
  modify fun s => { s with groups := s.groups.set (index - 1) (some (widthOf s body)) }

def groupName (close : Char) : Reading String := do
  let name ← until_ close
  if Identifier.isIdentifier name then return String.ofList name else fail

def conditionGroup : Reading Nat := do
  let name ← until_ ')'
  if Identifier.isIdentifier name then
    match (← get).names.lookup (String.ofList name) with
    | some index => return index
    | none => fail
  else
    match Identifier.integer? name with
    | some (Int.ofNat (n + 1)) =>
      if n + 1 ≥ 1073741823 then fail
      modify fun s => { s with asked := (n + 1) :: s.asked }
      return n + 1
    | _ => fail

def lookBehindNode (positive : Bool) (body : Node) : Reading Node := do
  let w := widthOf (← get) body
  if w.least > repeatLimit || w.least ≠ w.most then fail
  return .look (some w.least) positive body

/-- What a repetition sign can follow: everything but a place, and no repetition. -/
def repeatable : Node → Bool
  | .anchor _ | .repeated _ _ _ _ => false
  | _ => true

def isVerboseBlank (c : Char) : Bool := Classes.isAsciiBlank c

/-- A group that only holds its content together, kept apart while it is read so
that a repetition sign sees it as one. -/
def bracketed (body : Node) : Node := .seq [body]

mutual

def branches (fuel : Nat) (modes : Modes) (outermost : Bool) : Reading Node :=
  match fuel with
  | 0 => fail
  | fuel + 1 => do
    let first ← items fuel modes outermost []
    let others ← moreBranches fuel modes outermost
    match others with
    | [] => return first
    | _ => return .alt (first :: others)

def moreBranches (fuel : Nat) (modes : Modes) (outermost : Bool) : Reading (List Node) :=
  match fuel with
  | 0 => fail
  | fuel + 1 => do
    if ← take '|' then
      let whole := (← get).modes
      let modes := if outermost then whole else modes
      let branch ← items fuel modes false []
      let others ← moreBranches fuel modes outermost
      return branch :: others
    else return []

/-- The items of one branch; `acc` holds those already read, the last one first. -/
def items (fuel : Nat) (modes : Modes) (first : Bool) (acc : List Node) : Reading Node :=
  match fuel with
  | 0 => fail
  | fuel + 1 => do
    match ← peek with
    | none => return .seq acc.reverse
    | some (.escaped c) =>
      let _ ← next
      items fuel modes first ((← escape modes c) :: acc)
    | some (.plain c) =>
      if c = '|' || c = ')' then return .seq acc.reverse
      let _ ← next
      if modes.verbose && isVerboseBlank c then items fuel modes first acc
      else if modes.verbose && c = '#' then
        modify fun s => { s with rest := (s.rest.dropWhile (· ≠ .plain '\n')).tail }
        items fuel modes first acc
      else if c = '[' then
        let negated ← take '^'
        let left := (← get).rest.length
        let ms ← members modes (left + 1) []
        items fuel modes first (.set modes.fold negated ms :: acc)
      else if c = '.' then items fuel modes first (.any modes.dotAll :: acc)
      else if c = '^' then
        items fuel modes first (.anchor (if modes.multiLine then .lineStart else .textStart) :: acc)
      else if c = '$' then
        items fuel modes first (.anchor (if modes.multiLine then .lineEnd else .lastLineEnd) :: acc)
      else if c = '*' then repetition fuel modes first acc 0 none
      else if c = '+' then repetition fuel modes first acc 1 none
      else if c = '?' then repetition fuel modes first acc 0 (some 1)
      else if c = '\x7b' then
        match ← bounds? with
        | some (least, most) => repetition fuel modes first acc least most
        | none => items fuel modes first (.code modes.fold c.toNat :: acc)
      else if c = '(' then
        match ← group fuel modes (first && acc.isEmpty) with
        | some node => items fuel modes first (node :: acc)
        | none =>
          let whole := (← get).modes
          items fuel (if first then modes.add whole else modes) first acc
      else items fuel modes first (.code modes.fold c.toNat :: acc)

def repetition (fuel : Nat) (modes : Modes) (first : Bool) (acc : List Node)
    (least : Nat) (most : Option Nat) : Reading Node :=
  match fuel with
  | 0 => fail
  | fuel + 1 =>
    match acc with
    | [] => fail
    | body :: before => do
      if !repeatable body || modes.single then fail
      let greed ← greedMark
      items fuel modes first (.repeated greed least most body :: before)

/-- What follows an opening parenthesis, up to its close. Comments and modes for
the whole pattern are no items; the latter stand at its very start only. -/
def group (fuel : Nat) (modes : Modes) (atStart : Bool) : Reading (Option Node) :=
  match fuel with
  | 0 => fail
  | fuel + 1 => do
    if !(← take '?') then
      return some (← captured fuel modes none)
    match ← next with
    | some (.plain 'P') =>
      if ← take '<' then
        let name ← groupName '>'
        return some (← captured fuel modes (some name))
      else if ← take '=' then
        let name ← groupName ')'
        match (← get).names.lookup name with
        | some index => return some (← sameAs modes index)
        | none => fail
      else fail
    | some (.plain ':') =>
      let body ← branches fuel modes false
      expect ')'
      return some (bracketed body)
    | some (.plain '#') =>
      let s ← get
      match s.rest.dropWhile (· ≠ .plain ')') with
      | [] => fail
      | _ :: rest =>
        set { s with rest }
        return none
    | some (.plain '=') =>
      let body ← branches fuel modes false
      expect ')'
      return some (.look none true body)
    | some (.plain '!') =>
      let body ← branches fuel modes false
      expect ')'
      return some (.look none false body)
    | some (.plain '<') =>
      match ← next with
      | some (.plain sign) =>
        if sign ≠ '=' && sign ≠ '!' then fail
        let outer := (← get).behind
        modify fun s => { s with behind := some (outer.getD s.groups.length) }
        let body ← branches fuel modes false
        modify fun s => { s with behind := outer }
        expect ')'
        return some (← lookBehindNode (sign = '=') body)
      | _ => fail
    | some (.plain '(') =>
      let index ← conditionGroup
      checkBehind index
      let yes ← items fuel modes false []
      let no ← if ← take '|' then items fuel modes false [] else pure (.seq [])
      expect ')'
      return some (.ifGroup index yes no)
    | some (.plain '>') =>
      let body ← branches fuel modes false
      expect ')'
      return some (.atomic body)
    | some (.plain c) =>
      if c ≠ '-' && (Modes.ofLetter? c).isNone then fail
      match ← modeChange c with
      | none => if atStart then return none else fail
      | some (added, removed) =>
        let body ← branches fuel (modes.inside added removed) false
        expect ')'
        return some (bracketed body)
    | _ => fail

def captured (fuel : Nat) (modes : Modes) (name : Option String) : Reading Node :=
  match fuel with
  | 0 => fail
  | fuel + 1 => do
    let index ← openGroup name
    let body ← branches fuel modes false
    expect ')'
    closeGroup index body
    return .group index body

end

/-- The syntax of a pattern. Every recursive step takes a piece or goes at most
four levels down, so the bound is never met. -/
def read (s : List Char) : Except Fault Node := do
  let ps ← pieces s
  let (node, source) ← (branches (5 * ps.length + 10) .none true).run ⟨ps, [], [], none, [], .none⟩
  if source.modes.ascii && source.modes.full then throw .mixedAlphabets
  if !source.rest.isEmpty then throw .malformed
  if source.asked.any (· > source.groups.length) then throw .malformed
  return node

end Pattern
end MetricPaths
