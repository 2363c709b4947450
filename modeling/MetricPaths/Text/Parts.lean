import MetricPaths.Text.Classes
import MetricPaths.Text.Letters

/-! Finding, cutting and replacing parts of a text. -/
namespace MetricPaths
namespace Parts

def find? (part : List Char) : List Char → Option Nat
  | [] => if part.isEmpty then some 0 else none
  | c :: rest =>
    if part.isPrefixOf (c :: rest) then some 0 else (find? part rest).map (· + 1)

def findLast? (part s : List Char) : Option Nat :=
  (find? part.reverse s.reverse).map fun i => s.length - i - part.length

/-- The pieces between the first `most` occurrences of a separator. -/
def splitOn (separator : List Char) : Nat → List Char → List (List Char)
  | 0, s => [s]
  | most + 1, s =>
    match find? separator s with
    | none => [s]
    | some i => s.take i :: splitOn separator most (s.drop (i + separator.length))

/-- The same, with the last occurrences. -/
def splitOnLast (separator : List Char) (most : Nat) (s : List Char) : List (List Char) :=
  ((splitOn separator.reverse most s.reverse).map List.reverse).reverse

def words : Nat → Nat → List Char → List (List Char)
  | 0, _, _ => []
  | n + 1, most, s =>
    match Classes.stripLeft s with
    | [] => []
    | rest =>
      if most = 0 then [rest]
      else
        rest.takeWhile (fun c => !Classes.isBlank c) ::
          words n (most - 1) (rest.dropWhile fun c => !Classes.isBlank c)

def wordsLast (most : Nat) (s : List Char) : List (List Char) :=
  ((words (s.length + 1) most s.reverse).map List.reverse).reverse

/-- The first `most` occurrences of a part replaced. An empty part occurs before
every character and at the end. -/
def replace (old new : List Char) (most : Nat) (s : List Char) : List Char :=
  if old.isEmpty then
    let rec weave : Nat → List Char → List Char
      | 0, s => s
      | _ + 1, [] => new
      | n + 1, c :: rest => new ++ c :: weave n rest
    weave most s
  else
    (splitOn old (min most (s.length + 1)) s).intersperse new |>.flatten

def count (part s : List Char) : Nat :=
  if part.isEmpty then s.length + 1 else (splitOn part (s.length + 1) s).length - 1

def isLineEnd (c : Char) : Bool :=
  [0x0a, 0x0b, 0x0c, 0x0d, 0x1c, 0x1d, 0x1e, 0x85, 0x2028, 0x2029].contains c.toNat

def lines (keepEnds : Bool) : Nat → List Char → List (List Char)
  | 0, _ => []
  | _ + 1, [] => []
  | n + 1, s =>
    let line := s.takeWhile fun c => !isLineEnd c
    match s.dropWhile fun c => !isLineEnd c with
    | '\r' :: '\n' :: rest => (line ++ if keepEnds then ['\r', '\n'] else []) :: lines keepEnds n rest
    | c :: rest => (line ++ if keepEnds then [c] else []) :: lines keepEnds n rest
    | [] => [line]

def stripLeftOf (isOne : Char → Bool) (s : List Char) : List Char := s.dropWhile isOne

def stripRightOf (isOne : Char → Bool) (s : List Char) : List Char :=
  (s.reverse.dropWhile isOne).reverse

/-- Every run of letters begins with a capital and goes on in lower case. -/
def titled (afterLetter : Bool) : List Char → List Char
  | [] => []
  | c :: rest =>
    (if afterLetter then Letters.lowerOf c else Letters.titleOf c) ++ titled (Letters.isCased c) rest

def swapCase (s : List Char) : List Char :=
  s.flatMap fun c => if Letters.lowerOf c != [c] then Letters.lowerOf c else Letters.upperOf c

def isUpperLetter (c : Char) : Bool := Letters.lowerOf c != [c]

def isLowerLetter (c : Char) : Bool := Letters.upperOf c != [c] && !isUpperLetter c

end Parts
end MetricPaths
