import MetricPaths.Text.Classes
import MetricPaths.Text.Letters

/-! Console markup: tags between square brackets style the text between them and are
not shown. A backslash in front of a tag keeps it as text. -/
namespace MetricPaths
namespace Markup

def startsTag (c : Char) : Bool := ('a' ≤ c && c ≤ 'z') || c = '#' || c = '/' || c = '@'

def tag? (s : List Char) : Option (List Char × List Char) :=
  match s with
  | c :: _ =>
    if startsTag c then
      let inside := s.takeWhile fun c => c ≠ ']' && c ≠ '['
      match s.drop inside.length with
      | ']' :: rest => some (inside, rest)
      | _ => none
    else none
  | [] => none

/-- A bracket behind a backslash is the bracket alone. -/
def unescape : List Char → List Char
  | [] => []
  | '\\' :: '[' :: rest => '[' :: unescape rest
  | c :: rest => c :: unescape rest

def nameOf (tag : List Char) : List Char :=
  Letters.lower (Classes.strip (tag.takeWhile (· ≠ '=')))

def removeLast (name : List Char) (open_ : List (List Char)) : Option (List (List Char)) :=
  if open_.contains name then some (open_.erase name) else none

/-- The text without its tags; none if a closing tag closes nothing. `shown` is the
text since the last tag, and `slashes` counts the backslashes at its end. -/
def plainFrom (open_ : List (List Char)) (shown : List Char) (slashes : Nat) :
    Nat → List Char → Option (List Char)
  | 0, _ => none
  | _ + 1, [] => some (unescape (shown ++ List.replicate slashes '\\'))
  | n + 1, '\\' :: rest => plainFrom open_ shown (slashes + 1) n rest
  | n + 1, '[' :: rest =>
    match tag? rest with
    | none => plainFrom open_ (shown ++ List.replicate slashes '\\' ++ ['[']) 0 n rest
    | some (inside, after) =>
      let before := unescape shown ++ unescape (List.replicate (slashes / 2) '\\')
      if slashes % 2 = 1 then
        (plainFrom open_ [] 0 n after).map fun more => before ++ '[' :: inside ++ ']' :: more
      else
        match inside with
        | '/' :: name =>
          let left :=
            if (Classes.strip (name.takeWhile (· ≠ '='))).isEmpty then
              match open_ with
              | _ :: more => some more
              | [] => none
            else removeLast (nameOf name) open_
          match left with
          | some open_ => (plainFrom open_ [] 0 n after).map fun more => before ++ more
          | none => none
        | inside => (plainFrom (nameOf inside :: open_) [] 0 n after).map fun more => before ++ more
  | n + 1, c :: rest => plainFrom open_ (shown ++ List.replicate slashes '\\' ++ [c]) 0 n rest

def plain? (s : String) : Option String :=
  if s.toList.contains '[' then (plainFrom [] [] 0 (s.length + 1) s.toList).map String.ofList else some s

end Markup
end MetricPaths
