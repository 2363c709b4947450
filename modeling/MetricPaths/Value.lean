import MetricPaths.Text.Quoted
import MetricPaths.Calendar

/-! Values of documents: what a rules file, template data or an error detail can
hold, and how each value is written as text. Data that many translations share is frozen
into a read-only form, and thawed when it is written out. -/
namespace MetricPaths

/-- `list` and `map` can be changed by who holds them; `tuple` and `view` are their
read-only forms. Mappings keep the order of their entries. -/
inductive Value where
  | null
  | bool (b : Bool)
  | int (i : Int)
  | float (x : Float)
  | str (s : String)
  | list (items : List Value)
  | tuple (items : List Value)
  | map (entries : List (Value × Value))
  | view (entries : List (Value × Value))
  | set (items : List Value)
  | bytes (data : List UInt8)
  | day (d : Day)
  | moment (m : Moment)
deriving Inhabited, Repr

namespace Value

def ofText? : Option String → Value
  | some s => .str s
  | none => .null

def boolText (b : Bool) : String := if b then "True" else "False"

def commaSeparated (parts : List String) : String := String.intercalate ", " parts

/-- A tuple of one item keeps a comma. -/
def tupleText (parts : List String) : String :=
  match parts with
  | [one] => "(" ++ one ++ ",)"
  | _ => "(" ++ commaSeparated parts ++ ")"

def setText (parts : List String) : String :=
  if parts.isEmpty then "set()" else "\x7b" ++ commaSeparated parts ++ "\x7d"

mutual

/-- The form a value has inside a container: texts are quoted. -/
def literal : Value → String
  | .null => "None"
  | .bool b => boolText b
  | .int i => Int.repr i
  | .float x => Shortest.text x
  | .str s => Quoted.text s
  | .list items => "[" ++ commaSeparated (literals items) ++ "]"
  | .tuple items => tupleText (literals items)
  | .map entries => "\x7b" ++ commaSeparated (entryLiterals entries) ++ "\x7d"
  | .view entries => "mappingproxy(\x7b" ++ commaSeparated (entryLiterals entries) ++ "\x7d)"
  | .set items => setText (literals items)
  | .bytes data => Quoted.bytesText data
  | .day d => d.literal
  | .moment m => m.literal

def literals : List Value → List String
  | [] => []
  | v :: rest => literal v :: literals rest

def entryLiterals : List (Value × Value) → List String
  | [] => []
  | (k, v) :: rest => (literal k ++ ": " ++ literal v) :: entryLiterals rest

end

def text : Value → String
  | .str s => s
  | .view entries => literal (.map entries)
  | .day d => d.text
  | .moment m => m.text
  | v => literal v

/-- Numbers of more digits than this are neither read nor written. -/
def digitLimit : Nat := 4300

mutual

def isWritable : Value → Bool
  | .int i => i.natAbs < Nat.pow 10 digitLimit
  | .list items | .tuple items | .set items => areWritable items
  | .map entries | .view entries => entriesAreWritable entries
  | _ => true

def areWritable : List Value → Bool
  | [] => true
  | v :: rest => v.isWritable && areWritable rest

def entriesAreWritable : List (Value × Value) → Bool
  | [] => true
  | (k, v) :: rest => k.isWritable && v.isWritable && entriesAreWritable rest

end

@[simp] theorem isWritable_str (s : String) : (Value.str s).isWritable = true := rfl

def isFalsy : Value → Bool
  | .null => true
  | .bool b => !b
  | .int i => i = 0
  | .float x => x == 0.0
  | .str s => s = ""
  | .list items | .tuple items | .set items => items.isEmpty
  | .map entries | .view entries => entries.isEmpty
  | .bytes data => data.isEmpty
  | .day _ | .moment _ => false

/-- Truth values count as the numbers 0 and 1. -/
def integer? : Value → Option Int
  | .bool b => some (if b then 1 else 0)
  | .int i => some i
  | _ => none

mutual

/-- Whether two values are one and the same key of a mapping. Numbers are compared
by what they are worth, whatever their kind. -/
def sameKey : Value → Value → Bool
  | .null, .null => true
  | .str s, .str t => s = t
  | .bytes s, .bytes t => s = t
  | .day d, .day e => d = e
  | .moment d, .moment e => d = e
  | .tuple xs, .tuple ys => sameKeys xs ys
  | .float x, .float y => x == y
  | .float x, w => match integer? w with
    | some i => Binary.compareInt? x i = some .eq
    | none => false
  | v, .float y => match integer? v with
    | some i => Binary.compareInt? y i = some .eq
    | none => false
  | v, w => match integer? v, integer? w with
    | some i, some j => i = j
    | _, _ => false

def sameKeys : List Value → List Value → Bool
  | [], [] => true
  | v :: vs, w :: ws => sameKey v w && sameKeys vs ws
  | _, _ => false

end

def isKey : Value → Bool
  | .list _ | .map _ | .set _ | .view _ => false
  | _ => true

def entries? : Value → Option (List (Value × Value))
  | .map entries | .view entries => some entries
  | _ => none

def find? (key : Value) (entries : List (Value × Value)) : Option Value :=
  (entries.find? fun e => e.1.sameKey key).map (·.2)

def field? (name : String) (entries : List (Value × Value)) : Option Value :=
  find? (.str name) entries

@[simp] theorem field?_nil (name : String) : field? name [] = none := rfl

@[simp] theorem field?_cons (name key : String) (v : Value) (rest : List (Value × Value)) :
    field? name ((.str key, v) :: rest) = if key = name then some v else field? name rest := by
  by_cases h : key = name <;> simp [field?, find?, sameKey, h]

/-- A key given again keeps its place and its first spelling and takes the new value. -/
def put (key value : Value) : List (Value × Value) → List (Value × Value)
  | [] => [(key, value)]
  | (k, v) :: rest => if k.sameKey key then (k, value) :: rest else (k, v) :: put key value rest

def collect (entries : List (Value × Value)) : List (Value × Value) :=
  entries.foldl (fun acc e => put e.1 e.2 acc) []

end Value

namespace Value

mutual

/-- Mappings become views and lists tuples, at every depth of these two. -/
def freeze : Value → Value
  | .map entries => .view (freezeEntries entries)
  | .view entries => .view (freezeEntries entries)
  | .list items => .tuple (freezeAll items)
  | v => v

def freezeAll : List Value → List Value
  | [] => []
  | v :: rest => v.freeze :: freezeAll rest

def freezeEntries : List (Value × Value) → List (Value × Value)
  | [] => []
  | (k, v) :: rest => (k, v.freeze) :: freezeEntries rest

end

mutual

/-- Views become mappings and tuples lists, at every depth of these two. -/
def thaw : Value → Value
  | .map entries => .map (thawEntries entries)
  | .view entries => .map (thawEntries entries)
  | .tuple items => .list (thawAll items)
  | v => v

def thawAll : List Value → List Value
  | [] => []
  | v :: rest => v.thaw :: thawAll rest

def thawEntries : List (Value × Value) → List (Value × Value)
  | [] => []
  | (k, v) :: rest => (k, v.thaw) :: thawEntries rest

end
end Value
end MetricPaths
