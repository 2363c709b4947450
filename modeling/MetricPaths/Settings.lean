import MetricPaths.Libraries
import MetricPaths.Text.Classes
import MetricPaths.Text.Letters

/-! Settings: what a document can leave to the environment. A variable of the environment goes
before one of the file of variables, whose lines give names to values; values can be quoted
there, and can take in the values of variables that are known. -/
namespace MetricPaths
namespace Bindings

def isLineEnd (c : Char) : Bool := c = '\n' || c = '\r'

def isInlineBlank (c : Char) : Bool := Classes.isBlank c && !isLineEnd c

def skipInline (s : List Char) : List Char := s.dropWhile isInlineBlank

def skipExport (s : List Char) : List Char :=
  match s with
  | 'e' :: 'x' :: 'p' :: 'o' :: 'r' :: 't' :: c :: rest => if isInlineBlank c then skipInline rest else s
  | s => s

/-- What stands up to a closing quote; a backslash keeps a quote from closing. -/
def untilQuote (quote : Char) : List Char → Option (List Char × List Char)
  | [] => none
  | [c] => if c = quote then some ([], []) else none
  | '\\' :: c :: rest =>
    if c = quote then
      match untilQuote quote rest with
      | some (s, rest) => some ('\\' :: c :: s, rest)
      | none => some (['\\'], rest)
    else (untilQuote quote (c :: rest)).map fun (s, rest) => ('\\' :: s, rest)
  | c :: rest => if c = quote then some ([], rest) else (untilQuote quote rest).map fun (s, rest) => (c :: s, rest)

def doubleEscapes : List (Char × Nat) :=
  [('\\', 92), ('\'', 39), ('"', 34), ('a', 7), ('b', 8), ('f', 12), ('n', 10), ('r', 13), ('t', 9),
    ('v', 11)]

def singleEscapes : List (Char × Nat) := [('\\', 92), ('\'', 39)]

def unescape (escapes : List (Char × Nat)) : List Char → List Char
  | [] => []
  | [c] => [c]
  | '\\' :: c :: rest =>
    match escapes.lookup c with
    | some code => Char.ofNat code :: unescape escapes rest
    | none => '\\' :: unescape escapes (c :: rest)
  | c :: rest => c :: unescape escapes rest

/-- A value without quotes ends before a comment that blanks stand in front of. -/
def beforeComment : List Char → List Char
  | [] => []
  | c :: rest =>
    if Classes.isBlank c && (rest.dropWhile Classes.isBlank).head? = some '#' then []
    else c :: beforeComment rest

def value? (s : List Char) : Option (List Char × List Char) :=
  match s with
  | '\'' :: rest => (untilQuote '\'' rest).map fun (v, rest) => (unescape singleEscapes v, rest)
  | '"' :: rest => (untilQuote '"' rest).map fun (v, rest) => (unescape doubleEscapes v, rest)
  | s =>
    let line := s.takeWhile fun c => !isLineEnd c
    some (Classes.stripRight (beforeComment line), s.drop line.length)

def lineEnd? (s : List Char) : Option (List Char) :=
  let s := match skipInline s with
    | '#' :: rest => rest.dropWhile fun c => !isLineEnd c
    | _ => s
  match skipInline s with
  | [] => some []
  | '\r' :: '\n' :: rest => some rest
  | c :: rest => if isLineEnd c then some rest else none

def name? (s : List Char) : Option (Option (List Char) × List Char) :=
  match s with
  | '#' :: _ => some (none, s)
  | '\'' :: rest =>
    let name := rest.takeWhile (· ≠ '\'')
    if name.isEmpty || rest.length = name.length then none
    else some (some name, rest.drop (name.length + 1))
  | s =>
    let name := s.takeWhile fun c => c ≠ '=' && c ≠ '#' && !Classes.isBlank c
    if name.isEmpty then none else some (some name, s.drop name.length)

/-- One binding; a name without an equals sign has no value. -/
def binding? (s : List Char) : Option (Option (List Char × Option (List Char)) × List Char) := do
  let (name, rest) ← name? (skipExport s)
  let (value, rest) ← match skipInline rest with
    | '=' :: rest => (value? (skipInline rest)).map fun (v, rest) => (some v, rest)
    | rest => some (none, rest)
  let rest ← lineEnd? rest
  some (name.map fun n => (n, value), rest)

def bindings : Nat → List Char → List (List Char × Option (List Char))
  | 0, _ => []
  | n + 1, s =>
    match s.dropWhile Classes.isBlank with
    | [] => []
    | s =>
      match binding? s with
      | some (some b, rest) => b :: bindings n rest
      | some (none, rest) => bindings n rest
      | none =>
        match s.dropWhile fun c => !isLineEnd c with
        | [] => []
        | _ :: rest => bindings n rest

def ofText (s : List Char) : List (String × Option String) :=
  (bindings (s.length + 1) s).map fun (name, value) => (String.ofList name, value.map String.ofList)

/-- A reference to a variable behind its opening brace: its name, what to take if it is
not known, and the rest. -/
def reference? (s : List Char) : Option (List Char × List Char × List Char) :=
  let name := s.takeWhile fun c => c ≠ '\x7d' && c ≠ ':'
  match s.drop name.length with
  | '\x7d' :: rest => some (name, [], rest)
  | ':' :: '-' :: rest =>
    let other := rest.takeWhile (· ≠ '\x7d')
    match rest.drop other.length with
    | _ :: rest => some (name, other, rest)
    | [] => none
  | _ => none

def expand (known : List (String × Option String)) : Nat → List Char → List Char
  | 0, _ => []
  | _ + 1, [] => []
  | n + 1, c :: rest =>
    match c, rest with
    | '$', '\x7b' :: inside =>
      match reference? inside with
      | some (name, other, rest) =>
        let found := match known.lookup (String.ofList name) with
          | some value => (value.getD "").toList
          | none => other
        found ++ expand known n rest
      | none => c :: expand known n rest
    | c, rest => c :: expand known n rest

/-- Every value expanded by the bindings before it and the environment. -/
def resolve (environment : List (String × String)) (bindings : List (String × Option String)) :
    List (String × Option String) :=
  bindings.foldl (fun acc (name, value) =>
    let known := acc.reverse ++ environment.map fun e => (e.1, some e.2)
    acc ++ [(name, value.map fun v =>
      String.ofList (expand known (v.length + 1) v.toList))]) []

end Bindings

namespace Settings

def standard : Settings := ⟨none, "", "carbon", "INFO"⟩

def fileName : String := ".env"

def lower (s : String) : String := String.ofList (Letters.lower s.toList)

/-- The names of the settings and of the variables that set them, in any case. -/
def fieldNames : List String := ["config_file", "default_prefix", "default_format", "log_level"]

def variableOf (field : String) : String := "graphite_bridge_" ++ field

def value? (name : String) (settings : List (String × Option String)) : Option String :=
  ((settings.reverse.find? fun e => lower e.1 = name).bind (·.2))

/-- A variable of the file that sets nothing. Without a value, or under the bare name
of a setting, it is passed over. -/
def isUnknown (e : String × Option String) : Bool :=
  let name := lower e.1
  e.2.any (· ≠ "") && !fieldNames.contains name && !(fieldNames.map variableOf).contains name

/-- The settings of an environment and the files of the directory at hand. -/
def read (environment : List (String × String)) (files : Files) : Except Accident Settings := do
  let bindings ← match files.find? fileName with
    | .ok (some (.bytes data)) => do
      let s ← Content.text (.bytes data)
      pure (Bindings.resolve environment (Bindings.ofText s))
    | _ => pure []
  let last (e : String × Option String) : Option (String × Option String) :=
    bindings.reverse.find? fun f => lower f.1 = lower e.1
  if bindings.any fun e => (last e).any isUnknown then .error .settings
  let given (field : String) : Option String :=
    (value? (variableOf field) (environment.map fun e => (e.1, some e.2))).or
      (value? (variableOf field) bindings)
  return {
    configFile := given "config_file"
    lead := (given "default_prefix").getD standard.lead
    format := (given "default_format").getD standard.format
    logLevel := (given "log_level").getD standard.logLevel }

end Settings
end MetricPaths
