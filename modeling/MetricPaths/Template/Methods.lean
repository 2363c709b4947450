import MetricPaths.Template.Arithmetic
import MetricPaths.Template.Access
import MetricPaths.Text.Parts
import MetricPaths.Text.Classes
import MetricPaths.Text.Utf8

/-! Methods of texts, lists, tuples and mappings. -/
namespace MetricPaths
namespace Template
namespace Methods
open Op

def unlimited : Nat := 1000000000

/-- A count of which a negative one sets no limit. -/
def limitOf (d : Option Datum) : Op Nat :=
  match d with
  | none => return unlimited
  | some d => match d.integer? with
    | some i => return if i < 0 then unlimited else i.toNat
    | none => fail

/-- An argument that has to be a text; a text written for markup takes it in escaped. -/
def textOf (safe : Bool) (d : Datum) : Op (List Char) :=
  match d with
  | .str s isSafe => return (if safe && !isSafe then Arithmetic.escapeMarkup s else s).toList
  | _ => fail

def positionalOnly (a : Arguments) (least most : Nat) : Op (List Datum) :=
  if a.keywords.isEmpty && least ≤ a.positional.length && a.positional.length ≤ most then
    return a.positional
  else fail

def window (s : List Char) (rest : List Datum) : Op (Nat × List Char) := do
  let bound (d : Option Datum) : Op (Option Int) :=
    match d with
    | none => return none
    | some d => Access.bound d
  let start ← bound rest[0]?
  let stop ← bound rest[1]?
  match Access.sliceBounds s.length start stop none with
  | some (a, b, _) =>
    if start.any fun i => i > (s.length : Int) then fail
    return (a.toNat, (s.take b.toNat).drop a.toNat)
  | none => fail

def strings (safe : Bool) (parts : List (List Char)) : Op Datum :=
  newList (parts.map fun p => .str (String.ofList p) safe)

def stripSet (safe : Bool) (a : List Datum) : Op (Char → Bool) := do
  match a with
  | [] | [.none] => return Classes.isBlank
  | [d] =>
    let set ← textOf safe d
    return fun c => set.contains c
  | _ => fail

def isAlpha (c : Char) : Bool :=
  Classes.isWord c && !Classes.isDigit c && c ≠ '_' && Identifier.isPart c

def allOf (s : List Char) (p : Char → Bool) : Datum := .bool (!s.isEmpty && s.all p)

def ofText (s : List Char) (safe : Bool) (name : String) (a : Arguments) : Op Datum := do
  let text (cs : List Char) : Datum := .str (String.ofList cs) safe
  match name with
  | "upper" => do let _ ← positionalOnly a 0 0; return text (Letters.upper s)
  | "lower" => do let _ ← positionalOnly a 0 0; return text (Letters.lower s)
  | "casefold" => do let _ ← positionalOnly a 0 0; return text (Letters.lower s)
  | "capitalize" => do let _ ← positionalOnly a 0 0; return text (Letters.capitalize s)
  | "title" => do let _ ← positionalOnly a 0 0; return text (Parts.titled false s)
  | "swapcase" => do let _ ← positionalOnly a 0 0; return text (Parts.swapCase s)
  | "strip" => do
    let isOne ← stripSet safe (← positionalOnly a 0 1)
    return text (Parts.stripRightOf isOne (Parts.stripLeftOf isOne s))
  | "lstrip" => do return text (Parts.stripLeftOf (← stripSet safe (← positionalOnly a 0 1)) s)
  | "rstrip" => do return text (Parts.stripRightOf (← stripSet safe (← positionalOnly a 0 1)) s)
  | "split" | "rsplit" => do
    let values ← lift (a.bind 0 ["sep", "maxsplit"])
    let most ← limitOf (values[1]?).join
    match (values[0]?).join with
    | Option.none | some Datum.none =>
      strings safe (if name = "split" then Parts.words (s.length + 1) most s else Parts.wordsLast most s)
    | some d =>
      let sep ← textOf safe d
      if sep.isEmpty then fail
      let most := min most (s.length + 1)
      strings safe (if name = "split" then Parts.splitOn sep most s else Parts.splitOnLast sep most s)
  | "splitlines" => do
    let values ← lift (a.bind 0 ["keepends"])
    let keep ← match (values[0]?).join with
      | none => pure false
      | some d => truth d
    strings safe (Parts.lines keep (s.length + 1) s)
  | "join" => do
    match ← positionalOnly a 1 1 with
    | [d] =>
      if !isIterable d then (do let _ ← need d; fail)
      let parts ← (← items d).mapM fun e => do
        let _ ← need e
        textOf safe e
      return text (parts.intersperse s).flatten
    | _ => fail
  | "replace" => do
    match ← positionalOnly a 2 3 with
    | old :: new :: rest =>
      let most ← limitOf rest[0]?
      return text (Parts.replace (← textOf safe old) (← textOf safe new) most s)
    | _ => fail
  | "startswith" | "endswith" => do
    match ← positionalOnly a 1 3 with
    | d :: rest =>
      let start ← match rest[0]? with
        | none => pure none
        | some d => Access.bound d
      if start.any fun i => i > (s.length : Int) then return .bool false
      let (_, part) ← window s rest
      let test (lead : List Char) : Bool :=
        if name = "startswith" then lead.isPrefixOf part else lead.isSuffixOf part
      match d with
      | .tuple choices => return .bool ((← choices.mapM (textOf false)).any test)
      | d => return .bool (test (← textOf false d))
    | _ => fail
  | "find" | "index" | "rfind" | "rindex" => do
    match ← positionalOnly a 1 3 with
    | d :: rest =>
      let part ← textOf false d
      let (offset, within) ← window s rest
      let found := if name = "find" || name = "index" then Parts.find? part within
        else Parts.findLast? part within
      match found with
      | some i => return .int (offset + i : Nat)
      | none => if name = "find" || name = "rfind" then return .int (-1) else fail
    | _ => fail
  | "count" => do
    match ← positionalOnly a 1 3 with
    | d :: rest =>
      let part ← textOf false d
      let (_, within) ← window s rest
      return .int (Parts.count part within)
    | _ => fail
  | "partition" | "rpartition" => do
    match ← positionalOnly a 1 1 with
    | [d] =>
      let sep ← textOf safe d
      if sep.isEmpty then fail
      let found := if name = "partition" then Parts.find? sep s else Parts.findLast? sep s
      match found with
      | some i => return .tuple [text (s.take i), text sep, text (s.drop (i + sep.length))]
      | none =>
        if name = "partition" then return .tuple [text s, text [], text []]
        else return .tuple [text [], text [], text s]
    | _ => fail
  | "removeprefix" => do
    match ← positionalOnly a 1 1 with
    | [d] =>
      let lead ← textOf safe d
      return text (if lead.isPrefixOf s then s.drop lead.length else s)
    | _ => fail
  | "removesuffix" => do
    match ← positionalOnly a 1 1 with
    | [d] =>
      let tail ← textOf safe d
      return text (if tail.isSuffixOf s then s.take (s.length - tail.length) else s)
    | _ => fail
  | "zfill" => do
    match ← positionalOnly a 1 1 with
    | [d] =>
      match d.integer? with
      | some w =>
        let fill := List.replicate (w.toNat - s.length) '0'
        match s with
        | '+' :: rest => return text ('+' :: fill ++ rest)
        | '-' :: rest => return text ('-' :: fill ++ rest)
        | s => return text (fill ++ s)
      | none => fail
    | _ => fail
  | "center" | "ljust" | "rjust" => do
    match ← positionalOnly a 1 2 with
    | d :: rest =>
      let fill ← match rest with
        | [] => pure ' '
        | d :: _ => do
          match ← textOf safe d with
          | [c] => pure c
          | _ => fail
      match d.integer? with
      | some w =>
        let extra := w.toNat - s.length
        let left := if name = "ljust" then 0 else if name = "rjust" then extra
          else extra / 2 + (if extra % 2 = 1 && w.toNat % 2 = 1 then 1 else 0)
        return text (List.replicate left fill ++ s ++ List.replicate (extra - left) fill)
      | none => fail
    | _ => fail
  | "isdigit" | "isdecimal" | "isnumeric" => do
    let _ ← positionalOnly a 0 0
    return allOf s Classes.isDigit
  | "isalpha" => do let _ ← positionalOnly a 0 0; return allOf s isAlpha
  | "isalnum" => do
    let _ ← positionalOnly a 0 0
    return allOf s fun c => Classes.isWord c && c ≠ '_'
  | "isspace" => do let _ ← positionalOnly a 0 0; return allOf s Classes.isBlank
  | "isascii" => do let _ ← positionalOnly a 0 0; return .bool (s.all fun c => c.toNat < 128)
  | "isprintable" => do let _ ← positionalOnly a 0 0; return .bool (s.all Printable.isPrintable)
  | "isidentifier" => do let _ ← positionalOnly a 0 0; return .bool (Identifier.isIdentifier s)
  | "isupper" => do
    let _ ← positionalOnly a 0 0
    return .bool (s.any Parts.isUpperLetter && !s.any Parts.isLowerLetter)
  | "islower" => do
    let _ ← positionalOnly a 0 0
    return .bool (s.any Parts.isLowerLetter && !s.any Parts.isUpperLetter)
  | "encode" => do let _ ← positionalOnly a 0 0; return .bytes (Utf8.encode s)
  | _ => fail

def position (d : Datum) : List Datum → Op (Option Nat)
  | [] => return none
  | e :: rest => do
    if ← equal e d then return some 0
    else return (← position d rest).map (· + 1)

def countOf (d : Datum) : List Datum → Op Nat
  | [] => return 0
  | e :: rest => do
    let here ← equal e d
    return (← countOf d rest) + if here then 1 else 0

def ofItems (found : List Datum) (name : String) (a : Arguments) : Op Datum := do
  match name with
  | "count" => do
    match ← positionalOnly a 1 1 with
    | [d] => return .int (← countOf d found)
    | _ => fail
  | "index" => do
    match ← positionalOnly a 1 3 with
    | d :: rest =>
      let bounds ← rest.mapM Access.bound
      match Access.sliceBounds found.length (bounds[0]?).join (bounds[1]?).join none with
      | some (low, high, _) =>
        match ← position d ((found.take high.toNat).drop low.toNat) with
        | some i => return .int (low.toNat + i : Nat)
        | none => fail
      | none => fail
    | _ => fail
  | _ => fail

/-- Insertion before the first item that is not before the new one, from the end. -/
def insertSorted (before : Datum → Datum → Op Bool) (d : Datum) : List Datum → Op (List Datum)
  | [] => return [d]
  | e :: rest => do
    if ← before d e then return d :: e :: rest
    else return e :: (← insertSorted before d rest)

/-- A stable order: equal items stay as they stood to each other. -/
def sortBy (before : Datum → Datum → Op Bool) (found : List Datum) : Op (List Datum) :=
  found.foldlM (fun acc d => insertSorted before d acc) []

def sorted (before : Datum → Datum → Op Bool) (reversed : Bool) (found : List Datum) :
    Op (List Datum) := do
  if reversed then return (← sortBy before found.reverse).reverse
  else sortBy before found

/-- Methods of lists; most of them change the list and give nothing back. -/
def ofList (address : Nat) (name : String) (a : Arguments) : Op Datum := do
  let found := (← store).list? address
  let set (changed : List Datum) : Op Datum := do
    write address (.list changed)
    return .none
  match name with
  | "append" => do
    match ← positionalOnly a 1 1 with
    | [d] => set (found ++ [d])
    | _ => fail
  | "extend" => do
    match ← positionalOnly a 1 1 with
    | [d] =>
      if !isIterable d then (do let _ ← need d; fail)
      set (found ++ (← items d))
    | _ => fail
  | "insert" => do
    match ← positionalOnly a 2 2 with
    | [i, d] =>
      match i.integer? with
      | some i =>
        let at_ := if i < 0 then (i + found.length).toNat else min i.toNat found.length
        set (found.take at_ ++ d :: found.drop at_)
      | none => fail
    | _ => fail
  | "pop" => do
    let i ← match ← positionalOnly a 0 1 with
      | [d] => match d.integer? with
        | some i => pure i
        | none => fail
      | _ => pure (-1)
    match Access.place? found.length i with
    | some j =>
      write address (.list (found.eraseIdx j))
      return (found[j]?).getD .none
    | none => fail
  | "remove" => do
    match ← positionalOnly a 1 1 with
    | [d] =>
      match ← position d found with
      | some j => set (found.eraseIdx j)
      | none => fail
    | _ => fail
  | "reverse" => do let _ ← positionalOnly a 0 0; set found.reverse
  | "clear" => do let _ ← positionalOnly a 0 0; set []
  | "copy" => do let _ ← positionalOnly a 0 0; newList found
  | "sort" => do
    let values ← lift ((Arguments.mk a.positional (a.keywords.filter (·.1 = "reverse"))).bind 0 ["reverse"])
    if !a.positional.isEmpty || a.keywords.any (·.1 ≠ "reverse") then fail
    let reversed ← match (values[0]?).join with
      | none => pure false
      | some d => truth d
    set (← sorted less reversed found)
  | _ => ofItems found name a

/-- The fault of a key that is not there. Its text is that of the key. -/
def absentKey (key : Datum) : Op Datum := do
  match Datum.literal (← store) key with
  | .ok _ => fail
  | .error _ => throw (.mute .value)

/-- Methods of mappings, as far as they leave these as they are. -/
def ofEntries (es : List (Datum × Datum)) (name : String) (a : Arguments) : Op Datum := do
  match name with
  | "keys" => do let _ ← positionalOnly a 0 0; return .listing .keys (es.map (·.1))
  | "values" => do let _ ← positionalOnly a 0 0; return .listing .values (es.map (·.2))
  | "items" => do let _ ← positionalOnly a 0 0; return .listing .items (es.map fun e => .tuple [e.1, e.2])
  | "copy" => do let _ ← positionalOnly a 0 0; return .dict es
  | "get" => do
    match ← positionalOnly a 1 2 with
    | key :: rest =>
      let _ ← need key
      if !key.isKey then fail
      match ← lift (Datum.lookup (← store) key es) with
      | some v => return v
      | none => return rest.headD .none
    | _ => fail
  | "pop" => do
    match ← positionalOnly a 1 2 with
    | key :: rest =>
      let _ ← need key
      if !key.isKey then fail
      match ← lift (Datum.lookup (← store) key es), rest with
      | some _, _ => fail
      | none, other :: _ => return other
      | none, [] => absentKey key
    | _ => fail
  | _ => fail

def cycle (index : Nat) (a : Arguments) : Op Datum := do
  if a.positional.isEmpty || !a.keywords.isEmpty then fail
  return (a.positional[index % a.positional.length]?).getD .none

def call (receiver : Datum) (name : String) (a : Arguments) : Op Datum := do
  match receiver with
  | .str s safe => ofText s.toList safe name a
  | .list address => ofList address name a
  | .tuple found => ofItems found name a
  | .dict es | .view es => ofEntries es name a
  | .loop index _ _ _ _ _ => if name = "cycle" then cycle index a else fail
  | .range start stop step => ofItems (Datum.rangeItems start stop step) name a
  | .day d => if name = "isoformat" then return .plain d.text else fail
  | .moment m => if name = "isoformat" then return .plain (m.textWith "T") else fail
  | .float x =>
    if name = "is_integer" then return .bool (x.floor == x && !x.isInf) else fail
  | _ => fail

end Methods
end Template
end MetricPaths
