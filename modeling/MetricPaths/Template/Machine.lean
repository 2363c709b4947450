import MetricPaths.Template.Attributes

/-! The state of rendering: the heap, whose store outlives a template, and the frames of
names, which do not. What was changed before a fault stays changed. Operations on values
see the heap only; names are a matter of expressions and statements. -/
namespace MetricPaths
namespace Template

/-- The cells below `kept` stood there before rendering; `touched` says whether one of
them was written to. -/
structure Heap where
  store : Store
  kept : Nat
  touched : Bool

/-- What values can do to the heap. -/
abbrev Op := ExceptT RenderFault (StateM Heap)

def fail {m : Type → Type} [MonadExceptOf RenderFault m] {α : Type} : m α := throw .untold

def collect {m : Type → Type} [Monad m] [MonadExceptOf RenderFault m]
    (f : Datum → m (List Datum)) : List Datum → m (List Datum × Option RenderFault)
  | [] => return ([], none)
  | d :: rest => do
    let found ← tryCatch (do return Except.ok (← f d)) fun fault => return Except.error fault
    match found with
    | .error fault => return ([], some fault)
    | .ok here =>
      let (more, fault) ← collect f rest
      return (here ++ more, fault)

namespace Op

def lift {α : Type} (outcome : Outcome α) : Op α :=
  match outcome with
  | .ok a => pure a
  | .error fault => throw fault

def store : Op Store := do return (← get).store

def alloc (cell : Cell) : Op Nat := do
  let m ← get
  set { m with store := m.store.push cell }
  return m.store.size

def write (address : Nat) (cell : Cell) : Op Unit :=
  modify fun m => { m with
    store := m.store.setIfInBounds address cell
    touched := m.touched || address < m.kept }

def newList (items : List Datum) : Op Datum := do return .list (← alloc (.list items))

/-- A cursor over what a computation yields; its fault is met behind the items. -/
def newCursor (items : List Datum) (fault : Option RenderFault) : Op Datum := do
  return .cursor (← alloc (.cursor items fault))

def text (d : Datum) : Op String := do lift (d.text (← store))

def literal (d : Datum) : Op String := do lift (d.literal (← store))

def truth (d : Datum) : Op Bool := do lift (d.truth (← store))

def equal (a b : Datum) : Op Bool := do lift (Datum.equal (← store) a b)

def less (a b : Datum) : Op Bool := do lift (Datum.less (← store) a b)

def chars (s : String) : List Datum := s.toList.map fun c => .plain (String.singleton c)

/-- The items of a value, with the fault that follows them if there is one. Those
of a cursor are used up. -/
def itemsAndFault : Datum → Op (List Datum × Option RenderFault)
  | .missing .noAlternative => return ([], none)
  | .missing how => throw how.fault
  | .str s _ => return (chars s, none)
  | .bytes data => return (data.map fun b => .int b.toNat, none)
  | .tuple items | .set items | .listing _ items => return (items, none)
  | .dict es | .view es => return (es.map (·.1), none)
  | .list address => do return ((← store).list? address, none)
  | .range start stop step => return (Datum.rangeItems start stop step, none)
  | .cursor address => do
    match (← store)[address]? with
    | some (.cursor items fault) =>
      write address (.cursor [] none)
      return (items, fault)
    | _ => return ([], none)
  | _ => fail

def items (d : Datum) : Op (List Datum) := do
  match ← itemsAndFault d with
  | (found, none) => return found
  | (_, some fault) => throw fault

def isIterable : Datum → Bool
  | .missing _ | .none | .bool _ | .int _ | .float _ | .day _ | .moment _ | .builtin _
  | .method _ _ | .macroValue _ _ _ | .space _ => false
  | _ => true

/-- The first item of a value. That of a cursor is used up. -/
def firstItem? : Datum → Op (Option Datum)
  | .cursor address => do
    match (← store)[address]? with
    | some (.cursor (d :: rest) fault) =>
      write address (.cursor rest fault)
      return some d
    | some (.cursor [] (some fault)) =>
      write address (.cursor [] none)
      throw fault
    | _ => return none
  | d => do return (← items d).head?

def length (d : Datum) : Op Nat := do
  match d with
  | .missing .noAlternative => return 0
  | .missing how => throw how.fault
  | .str s _ => return s.length
  | .bytes data => return data.length
  | .tuple items | .set items | .listing _ items => return items.length
  | .dict es | .view es => return es.length
  | .list address => return ((← store).list? address).length
  | .range start stop step => return Datum.rangeCount start stop step
  | .loop _ count _ _ _ _ => return count.getD 0
  | _ => fail

def need (d : Datum) : Op Datum :=
  match d with
  | .missing how => throw how.fault
  | d => return d

end Op

/-- A macro with the frames that it sees, the innermost first. -/
structure Macro where
  parameters : Parameters
  body : List Node
  scope : List Nat

/-- The names of a place in a template, and the macros that were defined there. -/
structure Frame where
  names : List (String × Datum)
  macros : List Macro

namespace Frame

def empty : Frame := ⟨[], []⟩

def bind (name : String) (value : Datum) (f : Frame) : Frame :=
  { f with names := (name, value) :: f.names.filter (·.1 ≠ name) }

def keep (called : Macro) (f : Frame) : Frame := { f with macros := f.macros ++ [called] }

end Frame

structure Machine where
  store : Store
  frames : Array Frame
  kept : Nat
  touched : Bool

abbrev Eval := ExceptT RenderFault (StateM Machine)

namespace Machine

def heap (m : Machine) : Heap := ⟨m.store, m.kept, m.touched⟩

def withHeap (m : Machine) (h : Heap) : Machine :=
  { m with store := h.store, kept := h.kept, touched := h.touched }

end Machine

/-- Operations on values leave the frames alone. -/
instance : MonadLiftT Op Eval where
  monadLift op := ExceptT.mk fun m =>
    let (result, heap) := op.run.run m.heap
    (result, m.withHeap heap)

namespace Eval

def newFrame : Eval Nat := do
  let m ← get
  set { m with frames := m.frames.push .empty }
  return m.frames.size

def bind (frame : Nat) (name : String) (value : Datum) : Eval Unit :=
  modify fun m => { m with frames := m.frames.modify frame (Frame.bind name value) }

def find? (frames : List Nat) (name : String) : Eval (Option Datum) := do
  let m ← get
  return frames.findSome? fun i => (m.frames[i]?).bind fun f => f.names.lookup name

def newMacro (frame : Nat) (name : String) (called : Macro) : Eval Datum := do
  let m ← get
  let index := (m.frames[frame]?).elim 0 fun f => f.macros.length
  set { m with frames := m.frames.modify frame (Frame.keep called) }
  return .macroValue name frame index

def macro? (frame index : Nat) : Eval (Option Macro) := do
  return ((← get).frames[frame]?).bind fun f => f.macros[index]?

end Eval

structure Arguments where
  positional : List Datum
  keywords : List (String × Datum)

namespace Arguments

def none : Arguments := ⟨[], []⟩

/-- The values of parameters: those in front by their places, the others by their
names. More arguments than parameters, an unknown name and a parameter given twice
are at fault, and so is a missing one among those required. -/
def bind (required : Nat) (names : List String) (a : Arguments) : Outcome (List (Option Datum)) :=
  let places := names.zipIdx
  if a.positional.length > names.length then .error .untold
  else if a.keywords.any fun k => !(names.drop a.positional.length).contains k.1 then .error .untold
  else
    let values := places.map fun (name, i) => (a.positional[i]?).or (a.keywords.lookup name)
    if (values.take required).any (·.isNone) then .error .untold else .ok values

end Arguments
end Template
end MetricPaths
