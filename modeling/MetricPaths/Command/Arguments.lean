import MetricPaths.Text.Classes
import MetricPaths.Text.Parts

/-! The grammar of command lines: options, which may stand anywhere, and one positional
argument. Long options can be cut short as long as they stay apart. -/
namespace MetricPaths
namespace Arguments

inductive Effect where
  | help
  /-- Takes a value, under a name. -/
  | value (field : String)
  /-- Is there or not. -/
  | flag (field : String)
deriving Repr, DecidableEq

structure Switch where
  sign : String
  effect : Effect

abbrev Options := List Switch

/-- How a line ends that gives nothing to do. -/
inductive Stop where
  | usage
  | help
deriving Repr, DecidableEq

/-- An argument that begins with a hyphen and is no value: an option, known or not,
with the value behind its equals sign or its letter. -/
structure Use where
  effect : Option Effect
  sign : List Char
  explicit : Option (List Char)
  /-- Whether the value stands behind an equals sign. -/
  isAssigned : Bool

inductive Word where
  | plain (s : String)
  /-- The two hyphens behind which nothing is an option. -/
  | rest
  | use (u : Use)

def effect? (options : Options) (sign : List Char) : Option Effect :=
  (options.find? fun o => o.sign.toList = sign).map (·.effect)

def isNegativeNumber (s : List Char) : Bool :=
  match s with
  | '-' :: rest =>
    let places := (rest.dropWhile Classes.isDigit).drop 1
    (!rest.isEmpty && rest.all Classes.isDigit) ||
      ((rest.dropWhile Classes.isDigit).head? = some '.' && !places.isEmpty && places.all Classes.isDigit)
  | _ => false

def splitAtEquals (s : List Char) : List Char × Option (List Char) :=
  match s.dropWhile (· ≠ '=') with
  | [] => (s, none)
  | _ :: value => (s.takeWhile (· ≠ '='), some value)

/-- The options that a word can mean if it is none as it stands. -/
def candidates (options : Options) (s : List Char) : List Use :=
  match s with
  | '-' :: '-' :: _ =>
    let (start, explicit) := splitAtEquals s
    (options.filter fun o => start.isPrefixOf o.sign.toList).map fun o =>
      ⟨some o.effect, o.sign.toList, explicit, explicit.isSome⟩
  | _ =>
    options.filterMap fun o =>
      if o.sign.toList = s.take 2 then some ⟨some o.effect, o.sign.toList, some (s.drop 2), false⟩
      else if s.isPrefixOf o.sign.toList then some ⟨some o.effect, o.sign.toList, none, false⟩
      else none

/-- What a word is. One that can mean several options is at fault. -/
def classify (options : Options) (word : String) : Except Stop Word :=
  let s := word.toList
  if s.head? ≠ some '-' || s.length = 1 then .ok (.plain word)
  else
    match effect? options s, splitAtEquals s with
    | some effect, _ => .ok (.use ⟨some effect, s, none, false⟩)
    | none, (sign, explicit) =>
      match explicit, effect? options sign with
      | some value, some effect => .ok (.use ⟨some effect, sign, some value, true⟩)
      | _, _ =>
        match candidates options s with
        | [one] => .ok (.use one)
        | _ :: _ :: _ => .error .usage
        | [] =>
          if isNegativeNumber s || s.contains ' ' then .ok (.plain word)
          else .ok (.use ⟨none, s, none, false⟩)

def words (options : Options) : List String → Except Stop (List Word)
  | [] => .ok []
  | word :: more =>
    if word = "--" then .ok (.rest :: more.map .plain)
    else do
      let w ← classify options word
      return w :: (← words options more)

/-- What was given so far: values of options in their order, the positional argument,
and whether anything was left over. -/
structure Given where
  values : List (String × String) := []
  positional : Option String := none
  extra : Bool := false

def Given.put (g : Given) (field value : String) : Given :=
  { g with values := g.values ++ [(field, value)] }

/-- Letters of options without values that stand behind one hyphen. The last of them can
take a value, and a letter that is no option is left over. Behind an equals sign no letters
can stand. Help that was `asked` for is given once the letters are found to be in order. -/
def letters (options : Options) (g : Given) (asked : Bool) (effect : Effect) (explicit : Option (List Char))
    (isAssigned : Bool) (next : List Word) : Nat → Except Stop (Given × List Word)
  | 0 => .error .usage
  | n + 1 =>
    let stopIf (asked : Bool) (r : Given × List Word) : Except Stop (Given × List Word) :=
      if asked then .error .help else .ok r
    match effect, explicit with
    | .value field, some value => stopIf asked (g.put field (String.ofList value), next)
    | .value field, none =>
      match next with
      | .plain value :: next => stopIf asked (g.put field value, next)
      | _ => .error .usage
    | .help, none => .error .help
    | .flag field, none => stopIf asked (g.put field "", next)
    | _, some [] => .error .usage
    | _, some (letter :: more) =>
      if isAssigned || letter = '-' then .error .usage
      else
        let g := match effect with
          | .flag field => g.put field ""
          | _ => g
        let asked := asked || effect = .help
        match effect? options ['-', letter], more with
        | none, _ => stopIf asked ({ g with extra := true }, next)
        | some other, [] => letters options g asked other none false next n
        | some other, '=' :: value => letters options g asked other (some value) true next n
        | some other, more => letters options g asked other (some more) false next n

/-- The use of an option, with the word behind it if that is its value. -/
def apply (options : Options) (g : Given) (u : Use) (next : List Word) :
    Except Stop (Given × List Word) :=
  match u.effect, u.explicit with
  | none, _ => .ok ({ g with extra := true }, next)
  | some (.value field), some value => .ok (g.put field (String.ofList value), next)
  | some effect, explicit =>
    let isLong := u.sign[1]? = some '-'
    if isLong && explicit.isSome then .error .usage
    else letters options g false effect explicit u.isAssigned next ((explicit.getD []).length + 1)

def fill (options : Options) (g : Given) : Nat → List Word → Except Stop Given
  | 0, _ => .error .usage
  | _ + 1, [] => .ok g
  | n + 1, .use u :: next => do
    let (g, next) ← apply options g u next
    fill options g n next
  | n + 1, .plain s :: next =>
    if g.positional.isSome then fill options { g with extra := true } n next
    else
      let next := match next with
        | .rest :: next => next
        | next => next
      fill options { g with positional := some s } n next
  | n + 1, .rest :: next =>
    match g.positional, next with
    | none, .plain s :: next => fill options { g with positional := some s } n next
    | _, next => fill options { g with extra := true } n next

def ofWords (options : Options) (arguments : List String) : Except Stop Given := do
  let ws ← words options arguments
  let g ← fill options {} (ws.length + 1) ws
  if g.positional.isNone || g.extra then .error .usage else return g

def front (options : Options) (g : Given) : Nat → List String → List Word →
    Except Stop (Given × Option (String × List String))
  | 0, _, _ => .error .usage
  | _ + 1, _, [] => .ok (g, none)
  | n + 1, arguments, .use u :: next => do
    let (g, left) ← apply options g u next
    front options g n (arguments.drop (next.length + 1 - left.length)) left
  | _ + 1, arguments, .plain s :: _ => .ok (g, some (s, arguments.drop 1))
  | _ + 1, _, .rest :: _ => .error .usage

def Given.last? (g : Given) (field : String) : Option String := g.values.reverse.lookup field

def Given.all (g : Given) (field : String) : List String :=
  (g.values.filter (·.1 = field)).map (·.2)

def Given.has (g : Given) (field : String) : Bool := g.values.any (·.1 = field)

end Arguments
end MetricPaths
