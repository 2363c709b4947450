import MetricPaths.Text.Utf8
import MetricPaths.Failure

/-! A tree of files, as far as reading one of them can show it. -/
namespace MetricPaths

inductive Content where
  | bytes (data : List UInt8)
  | directory
deriving Repr, DecidableEq

/-- Files of one directory by their names, which can lead through others inside it. -/
abbrev Files := List (String × Content)

namespace Files

def parts (path : List Char) : List (List Char) :=
  (go path).filter fun p => p ≠ [] && p ≠ ['.']
where
  go : List Char → List (List Char)
  | [] => [[]]
  | c :: rest =>
    if c = '/' then [] :: go rest
    else match go rest with
      | [] => [[c]]
      | p :: more => (c :: p) :: more

def joined (ps : List (List Char)) : List Char := (ps.intersperse ['/']).flatten

def normal (path : String) : String :=
  let s := path.toList
  let body := joined (parts s)
  match s with
  | '/' :: '/' :: '/' :: _ => String.ofList ('/' :: body)
  | '/' :: '/' :: _ => String.ofList ('/' :: '/' :: body)
  | '/' :: _ => String.ofList ('/' :: body)
  | _ => if body.isEmpty then "." else String.ofList body

/-- What stands in the directory under the names that lead there. A directory is there if
anything is inside it. -/
def at? (files : Files) (names : List (List Char)) : Option Content :=
  let named := files.map fun (name, content) => (parts name.toList, content)
  match named.find? fun e => e.1 = names with
  | some (_, content) => some content
  | none => if names.isEmpty || named.any fun e => names.isPrefixOf e.1 then some .directory else none

/-- A name of more bytes cannot be asked for. -/
def nameLimit : Nat := 255

/-- Nor can a path of more bytes. -/
def pathLimit : Nat := 4095

/-- What the parts of a path lead to from a directory: from one that `names` lead to, or
from one outside, where no names are known. Only directories are gone through. -/
def walk (files : Files) : Option (List (List Char)) → List (List Char) →
    Except Accident (Option Content)
  | names?, [] => .ok (names?.elim (some .directory) files.at?)
  | names?, part :: rest =>
    if part = ['.', '.'] then
      walk files (names?.bind fun names => if names.isEmpty then none else some names.dropLast) rest
    else if nameLimit < (Utf8.encode part).length then .error .name
    else
      match names? with
      | none => .ok none
      | some names =>
        match files.at? (names ++ [part]) with
        | none => .ok none
        | some .directory => walk files (some (names ++ [part])) rest
        | some content => .ok (if rest.isEmpty then some content else none)

def find? (files : Files) (path : String) : Except Accident (Option Content) :=
  let s := path.toList
  if s.contains '\x00' then .ok none
  else if pathLimit < (Utf8.encode (normal path).toList).length then .error .name
  else walk files (if s.head? = some '/' then none else some []) (parts s)

end Files

/-- Every end of a line written as one character. -/
def Content.unixLines : List Char → List Char
  | [] => []
  | '\r' :: '\n' :: rest => '\n' :: unixLines rest
  | '\r' :: rest => '\n' :: unixLines rest
  | c :: rest => c :: unixLines rest

def Content.text : Content → Except Accident (List Char)
  | .directory => .error .directory
  | .bytes data =>
    match Utf8.decode data with
    | .ok s => .ok (unixLines s)
    | .error _ => .error .encoding

end MetricPaths
