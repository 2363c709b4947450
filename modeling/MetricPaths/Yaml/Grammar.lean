import MetricPaths.Yaml.Node

/-! Nodes read from tokens. -/
namespace MetricPaths
namespace Yaml

/-- What is left to read, the tag handles in force, and the nodes that can be named
again; one that is still being read has no value yet. -/
structure Reading where
  tokens : List Token
  handles : List (String × String)
  anchors : List (String × Option Node)

abbrev Read := StateT Reading (Except Fault)

namespace Read

def fail {α : Type} : Read α := throw .malformed

def standardHandles : List (String × String) := [("!", "!"), ("!!", Tag.lead)]

def peek : Read Token := do return (← get).tokens.headD .streamEnd

def skip : Read Unit := modify fun s => { s with tokens := s.tokens.tail }

def accept (t : Token) : Read Bool := do
  if (← peek) = t then
    skip
    return true
  else return false

def isOneOf (ts : List Token) : Read Bool := do return ts.contains (← peek)

def emptyScalar : Node := .scalar .null ""

def tagName (handle : Option String) (suffix : String) : Read String := do
  match handle with
  | none => return suffix
  | some h =>
    match (← get).handles.lookup h with
    | some lead => return lead ++ suffix
    | none => fail

def properties : Read (Option String × Option String) := do
  match ← peek with
  | .anchor name =>
    skip
    match ← peek with
    | .tag handle suffix =>
      skip
      return (some name, some (← tagName handle suffix))
    | _ => return (some name, none)
  | .tag handle suffix =>
    skip
    match ← peek with
    | .anchor name =>
      skip
      return (some name, some (← tagName handle suffix))
    | _ => return (none, some (← tagName handle suffix))
  | _ => return (none, none)

/-- An anchor names one node only. -/
def openAnchor (anchor : Option String) : Read Unit := do
  match anchor with
  | none => return
  | some name =>
    if ((← get).anchors.lookup name).isSome then fail
    modify fun s => { s with anchors := (name, none) :: s.anchors }

def closeAnchor (anchor : Option String) (node : Node) : Read Node := do
  match anchor with
  | none => return node
  | some name =>
    modify fun s =>
      { s with anchors := s.anchors.map fun e => if e.1 = name then (name, some node) else e }
    return node

/-- The tag of a collection. An exclamation mark alone says nothing. -/
def tagOr (standard : Tag) (tag : Option String) : Tag :=
  match tag with
  | none => standard
  | some "!" => standard
  | some name => Tag.ofName name

/-- The tag of a scalar. What is quoted is a text unless a tag says otherwise. -/
def scalarTag (tag : Option String) (plain : Bool) (text : String) : Tag :=
  match tag with
  | none => if plain then impliedTag text else .str
  | some "!" => impliedTag text
  | some name => Tag.ofName name

mutual

/-- A node. Blocks can begin only where `block` is set, and a sequence whose entries
stand no further in than its key only where `flush` is set. -/
def node (block flush : Bool) : Nat → Read Node
  | 0 => fail
  | n + 1 => do
    match ← peek with
    | .alias name =>
      skip
      match (← get).anchors.lookup name with
      | some (some found) => return found
      | some none => return .recursive
      | none => fail
    | _ =>
      let (anchor, tag) ← properties
      let t ← peek
      match t with
      | .scalar text plain =>
        skip
        openAnchor anchor
        closeAnchor anchor (.scalar (scalarTag tag plain text) text)
      | .flowSequenceStart =>
        openAnchor anchor
        skip
        closeAnchor anchor (.sequence (tagOr .seq tag) (← flowItems true n))
      | .flowMappingStart =>
        openAnchor anchor
        skip
        closeAnchor anchor (.mapping (tagOr .map tag) (← flowEntries true n))
      | _ =>
        if flush && t = .blockEntry then
          openAnchor anchor
          closeAnchor anchor (.sequence (tagOr .seq tag) (← flushItems n))
        else if block && t = .blockSequenceStart then
          openAnchor anchor
          skip
          closeAnchor anchor (.sequence (tagOr .seq tag) (← blockItems n))
        else if block && t = .blockMappingStart then
          openAnchor anchor
          skip
          closeAnchor anchor (.mapping (tagOr .map tag) (← blockEntries n))
        else if anchor.isSome || tag.isSome then
          openAnchor anchor
          closeAnchor anchor (.scalar (scalarTag tag true "") "")
        else fail

def nodeUnless (ends : List Token) (block flush : Bool) : Nat → Read Node
  | 0 => fail
  | n + 1 => do
    if ← isOneOf ends then return emptyScalar else node block flush n

def blockItems : Nat → Read (List Node)
  | 0 => fail
  | n + 1 => do
    if ← accept .blockEntry then
      let item ← nodeUnless [.blockEntry, .blockEnd] true false n
      return item :: (← blockItems n)
    else if ← accept .blockEnd then return []
    else fail

def flushItems : Nat → Read (List Node)
  | 0 => fail
  | n + 1 => do
    if ← accept .blockEntry then
      let item ← nodeUnless [.blockEntry, .key, .value, .blockEnd] true false n
      return item :: (← flushItems n)
    else return []

def blockEntries : Nat → Read (List (Node × Node))
  | 0 => fail
  | n + 1 => do
    if ← accept .key then
      let k ← nodeUnless [.key, .value, .blockEnd] true true n
      let v ← blockValue n
      return (k, v) :: (← blockEntries n)
    else if ← accept .blockEnd then return []
    else fail

def blockValue : Nat → Read Node
  | 0 => fail
  | n + 1 => do
    if ← accept .value then nodeUnless [.key, .value, .blockEnd] true true n
    else return emptyScalar

def flowItems (first : Bool) : Nat → Read (List Node)
  | 0 => fail
  | n + 1 => do
    if ← accept .flowSequenceEnd then return []
    if !first then
      if !(← accept .flowEntry) then fail
    if ← accept .key then
      let k ← nodeUnless [.value, .flowEntry, .flowSequenceEnd] false false n
      let v ← flowValue [.flowEntry, .flowSequenceEnd] n
      return .mapping .map [(k, v)] :: (← flowItems false n)
    else if ← accept .flowSequenceEnd then return []
    else
      let item ← node false false n
      return item :: (← flowItems false n)

def flowEntries (first : Bool) : Nat → Read (List (Node × Node))
  | 0 => fail
  | n + 1 => do
    if ← accept .flowMappingEnd then return []
    if !first then
      if !(← accept .flowEntry) then fail
    if ← accept .key then
      let k ← nodeUnless [.value, .flowEntry, .flowMappingEnd] false false n
      let v ← flowValue [.flowEntry, .flowMappingEnd] n
      return (k, v) :: (← flowEntries false n)
    else if ← accept .flowMappingEnd then return []
    else
      let k ← node false false n
      return (k, emptyScalar) :: (← flowEntries false n)

def flowValue (ends : List Token) : Nat → Read Node
  | 0 => fail
  | n + 1 => do
    if ← accept .value then nodeUnless ends false false n
    else return emptyScalar

end

/-- Directives in front of a document. Only the first version of the language is read. -/
def directives (version : Bool) (handles : List (String × String)) : Nat → Read Unit
  | 0 => fail
  | n + 1 => do
    match ← peek with
    | .directive (.version major) =>
      skip
      if version || major ≠ 1 then fail
      directives true handles n
    | .directive (.tag handle lead) =>
      skip
      if (handles.lookup handle).isSome then fail
      directives version ((handle, lead) :: handles) n
    | .directive .other =>
      skip
      directives version handles n
    | _ => modify fun s => { s with handles := handles ++ standardHandles }

def skipDocumentEnds : Nat → Read Unit
  | 0 => fail
  | n + 1 => do if ← accept .documentEnd then skipDocumentEnds n else return

/-- The only document of a text; a text without one has no node. -/
def document (limit : Nat) : Read (Option Node) := do
  match ← peek with
  | .streamEnd => return none
  | .directive _ | .documentStart =>
    directives false [] limit
    if !(← accept .documentStart) then fail
    let ends ← do
      match ← peek with
      | .directive _ | .documentStart | .documentEnd | .streamEnd => pure true
      | _ => pure false
    let found ← if ends then pure emptyScalar else node true false limit
    skipDocumentEnds limit
    if (← peek) = .streamEnd then return some found else fail
  | _ =>
    let found ← node true false limit
    skipDocumentEnds limit
    if (← peek) = .streamEnd then return some found else fail

end Read

def Node.ofText? (s : List Char) : Except Fault (Option Node) := do
  let tokens ← Token.ofText s
  let start : Reading := ⟨tokens, Read.standardHandles, []⟩
  let (found, _) ← (Read.document (4 * tokens.length + 8)).run start
  return found

end Yaml
end MetricPaths
