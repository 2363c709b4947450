import MetricPaths.Pattern.Syntax
import MetricPaths.Text.Classes
import MetricPaths.Text.Letters

/-! Searching a text for a pattern. Branches and repetitions are tried in the order
the pattern gives, and the first way that leads to the end counts. -/
namespace MetricPaths
namespace Pattern

/-- Lower-case letters that have the same upper case. -/
def foldClasses : List (List Nat) :=
  [[0x69, 0x131], [0x73, 0x17f], [0xb5, 0x3bc], [0x345, 0x3b9, 0x1fbe], [0x390, 0x1fd3],
    [0x3b0, 0x1fe3], [0x3b2, 0x3d0], [0x3b5, 0x3f5], [0x3b8, 0x3d1], [0x3ba, 0x3f0],
    [0x3c0, 0x3d6], [0x3c1, 0x3f1], [0x3c2, 0x3c3], [0x3c6, 0x3d5], [0x432, 0x1c80],
    [0x434, 0x1c81], [0x43e, 0x1c82], [0x441, 0x1c83], [0x442, 0x1c84, 0x1c85],
    [0x44a, 0x1c86], [0x463, 0x1c87], [0x1c88, 0xa64b], [0x1e61, 0x1e9b], [0xfb05, 0xfb06]]

def asciiLower (n : Nat) : Nat := if 65 ≤ n && n ≤ 90 then n + 32 else n

def lowered : Fold → Nat → Nat
  | .exact, n => n
  | .ascii, n => asciiLower n
  | .full, n => Letters.lowerCode n

def variants : Fold → Nat → List Nat
  | .exact, n => [n]
  | .ascii, n =>
    let lower := asciiLower n
    if 97 ≤ lower && lower ≤ 122 then [lower, lower - 32] else [n]
  | .full, n =>
    let lower := Letters.lowerCode n
    let same := (foldClasses.find? (·.contains lower)).getD [lower]
    same.flatMap Letters.codesWithLower

def inClass (kind : ClassKind) (ascii : Bool) (n : Nat) : Bool :=
  let c := Char.ofNat n
  match kind, ascii with
  | .digit, true => Classes.isAsciiDigit c
  | .digit, false => Classes.isDigit c
  | .blank, true => Classes.isAsciiBlank c
  | .blank, false => Classes.isBlank c
  | .word, true => Classes.isAsciiWord c
  | .word, false => Classes.isWord c

/-- Whether a member holds a code point; `alike` are those that count as the same. -/
def Member.holds (lower : Nat) (alike : List Nat) : Member → Bool
  | .code n => alike.contains n
  | .range low high => alike.any fun n => low ≤ n && n ≤ high
  | .klass kind negated ascii => inClass kind ascii lower != negated

def inSet (fold : Fold) (negated : Bool) (members : List Member) (n : Nat) : Bool :=
  let alike := variants fold n
  (members.any (·.holds (lowered fold n) alike)) != negated

def codeAt? (text : Array Char) (i : Nat) : Option Nat := text[i]?.map Char.toNat

def isLineEndAt (text : Array Char) (i : Nat) : Bool := text[i]? = some '\n'

/-- An empty text has no edges of words, and no places without one either. -/
def Anchor.holds (text : Array Char) (i : Nat) : Anchor → Bool
  | .textStart => i = 0
  | .textEnd => i = text.size
  | .lineStart => i = 0 || isLineEndAt text (i - 1)
  | .lineEnd => i = text.size || isLineEndAt text i
  | .lastLineEnd => i = text.size || (i + 1 = text.size && isLineEndAt text i)
  | .wordEdge negated ascii =>
    let isWord (c : Char) : Bool := inClass .word ascii c.toNat
    let before := i != 0 && text[i - 1]?.any isWord
    let after := text[i]?.any isWord
    text.size != 0 && ((before != after) != negated)

/-- Where groups have matched, the latest first: number, start and end. -/
abbrev Captures := List (Nat × Nat × Nat)

abbrev Found := Option Captures

abbrev Rest := Nat → Captures → Found

def repeatEnd? (text : Array Char) (fold : Fold) (start stop i : Nat) : Option Nat :=
  let count := stop - start
  let same := (List.range count).all fun k =>
    match codeAt? text (start + k), codeAt? text (i + k) with
    | some a, some b => lowered fold a = lowered fold b
    | _, _ => false
  if same then some (i + count) else none

mutual

/-- Matches a node at a place and goes on with the rest. Each level of a node and
each round of a repetition takes one unit of the bound. -/
def run (text : Array Char) : Nat → Node → Nat → Captures → Rest → Found
  | 0, _, _, _, _ => none
  | fuel + 1, node, i, caps, rest =>
    match node with
    | .code fold n =>
      match codeAt? text i with
      | some m =>
        let hit : Bool := match fold with
          | .exact => m == n
          | fold => (variants fold m).contains n
        if hit then rest (i + 1) caps else none
      | none => none
    | .any lineEnds =>
      match codeAt? text i with
      | some m => if lineEnds || m != 10 then rest (i + 1) caps else none
      | none => none
    | .set fold negated members =>
      match codeAt? text i with
      | some m => if inSet fold negated members m then rest (i + 1) caps else none
      | none => none
    | .anchor a => if a.holds text i then rest i caps else none
    | .seq parts => runAll text fuel parts i caps rest
    | .alt branches => runAny text fuel branches i caps rest
    | .group index body =>
      run text fuel body i caps fun j caps => rest j ((index, i, j) :: caps)
    | .same fold index =>
      match caps.lookup index with
      | some (start, stop) =>
        match repeatEnd? text fold start stop i with
        | some j => rest j caps
        | none => none
      | none => none
    | .look back positive body =>
      let start? := match back with
        | none => some i
        | some width => if width ≤ i then some (i - width) else none
      let found := match start? with
        | some start => run text fuel body start caps fun _ caps => some caps
        | none => none
      match found, positive with
      | some caps, true => rest i caps
      | none, false => rest i caps
      | _, _ => none
    | .atomic body =>
      match runOnce text fuel body i caps with
      | some (j, caps) => rest j caps
      | none => none
    | .ifGroup index yes no =>
      if (caps.lookup index).isSome then run text fuel yes i caps rest
      else run text fuel no i caps rest
    | .repeated greed least most body =>
      match greed with
      | .greedy => greedy text fuel body least most 0 none i caps rest
      | .lazy => lazily text fuel body least most 0 none i caps rest
      | .possessive => possess text fuel body least most 0 none i caps rest

def runOnce (text : Array Char) : Nat → Node → Nat → Captures → Option (Nat × Captures)
  | 0, _, _, _ => none
  | fuel + 1, node, i, caps =>
    let marked := run text fuel node i caps fun j caps => some ((0, j, j) :: caps)
    match marked with
    | some ((_, j, _) :: caps) => some (j, caps)
    | _ => none

def runAll (text : Array Char) : Nat → List Node → Nat → Captures → Rest → Found
  | 0, _, _, _, _ => none
  | _ + 1, [], i, caps, rest => rest i caps
  | fuel + 1, n :: ns, i, caps, rest =>
    run text fuel n i caps fun j caps => runAll text fuel ns j caps rest

def runAny (text : Array Char) : Nat → List Node → Nat → Captures → Rest → Found
  | 0, _, _, _, _ => none
  | _ + 1, [], _, _, _ => none
  | fuel + 1, n :: ns, i, caps, rest =>
    match run text fuel n i caps rest with
    | some found => some found
    | none => runAny text fuel ns i caps rest

/-- As many rounds as possible first. A round that begins where the last one did is
not followed by another. -/
def greedy (text : Array Char) : Nat → Node → Nat → Option Nat → Nat → Option Nat → Nat →
    Captures → Rest → Found
  | 0, _, _, _, _, _, _, _, _ => none
  | fuel + 1, body, least, most, count, last, i, caps, rest =>
    if count < least then
      run text fuel body i caps fun j caps =>
        greedy text fuel body least most (count + 1) last j caps rest
    else
      let more := if most.all (count < ·) && last != some i then
          run text fuel body i caps fun j caps =>
            greedy text fuel body least most (count + 1) (some i) j caps rest
        else none
      match more with
      | some found => some found
      | none => rest i caps

def lazily (text : Array Char) : Nat → Node → Nat → Option Nat → Nat → Option Nat → Nat →
    Captures → Rest → Found
  | 0, _, _, _, _, _, _, _, _ => none
  | fuel + 1, body, least, most, count, last, i, caps, rest =>
    if count < least then
      run text fuel body i caps fun j caps =>
        lazily text fuel body least most (count + 1) last j caps rest
    else
      match rest i caps with
      | some found => some found
      | none =>
        if most.all (count < ·) && last != some i then
          run text fuel body i caps fun j caps =>
            lazily text fuel body least most (count + 1) (some i) j caps rest
        else none

/-- As many rounds as possible, each in its first way, with no way back. -/
def possess (text : Array Char) : Nat → Node → Nat → Option Nat → Nat → Option Nat → Nat →
    Captures → Rest → Found
  | 0, _, _, _, _, _, _, _, _ => none
  | fuel + 1, body, least, most, count, last, i, caps, rest =>
    if count < least then
      match runOnce text fuel body i caps with
      | some (j, caps) => possess text fuel body least most (count + 1) last j caps rest
      | none => none
    else if most.all (count < ·) && last != some i then
      match runOnce text fuel body i caps with
      | some (j, caps) => possess text fuel body least most (count + 1) (some i) j caps rest
      | none => rest i caps
    else rest i caps

end

/-- The bound: a node cannot be nested deeper than its size, and on each level a
repetition has at most one round for each character and for each round required. -/
def bound (node : Node) (text : Array Char) : Nat :=
  (2 * node.size + 4) * (text.size + node.size + 4)

def search (node : Node) (s : List Char) : Bool :=
  let text := s.toArray
  (List.range (text.size + 1)).any fun i =>
    (run text (bound node text) node i [] fun _ caps => some caps).isSome

end Pattern
end MetricPaths
