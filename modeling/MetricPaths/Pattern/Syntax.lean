/-! The syntax of search patterns. -/
namespace MetricPaths
namespace Pattern

/-- How letters are compared: as they are, without regard to the case of ASCII
letters, or without regard to the case of any letter. -/
inductive Fold where
  | exact
  | ascii
  | full
deriving Repr, DecidableEq

inductive ClassKind where
  | digit
  | blank
  | word
deriving Repr, DecidableEq

/-- A member of a set: a code point, a range that includes its ends, or a class,
over ASCII or over all characters. -/
inductive Member where
  | code (n : Nat)
  | range (low high : Nat)
  | klass (kind : ClassKind) (negated ascii : Bool)
deriving Repr, DecidableEq

inductive Anchor where
  | textStart
  | textEnd
  | lineStart
  | lineEnd
  /-- The end, or before a line end that is the last character. -/
  | lastLineEnd
  | wordEdge (negated ascii : Bool)
deriving Repr, DecidableEq

inductive Greed where
  | greedy
  | lazy
  | possessive
deriving Repr, DecidableEq

inductive Node where
  | code (fold : Fold) (n : Nat)
  | any (lineEnds : Bool)
  | set (fold : Fold) (negated : Bool) (members : List Member)
  | anchor (a : Anchor)
  | seq (parts : List Node)
  | alt (branches : List Node)
  | group (index : Nat) (body : Node)
  | repeated (greed : Greed) (least : Nat) (most : Option Nat) (body : Node)
  | same (fold : Fold) (index : Nat)
  /-- What stands ahead; or, `back` characters wide, what stands behind. -/
  | look (back : Option Nat) (positive : Bool) (body : Node)
  | atomic (body : Node)
  /-- One of two branches, by whether the group has matched. -/
  | ifGroup (index : Nat) (yes no : Node)
deriving Repr, Inhabited

/-- The least and greatest number of characters a pattern can match; widths stop
growing at the limit. -/
structure Width where
  least : Nat
  most : Nat
deriving Repr, DecidableEq, Inhabited

namespace Width

def limit : Nat := Nat.pow 2 64

def capped (least most : Nat) : Width := ⟨min least limit, min most limit⟩

def zero : Width := ⟨0, 0⟩

def add (v w : Width) : Width := capped (v.least + w.least) (v.most + w.most)

def either (v w : Width) : Width := ⟨min v.least w.least, max v.most w.most⟩

def times (w : Width) (least : Nat) (most : Option Nat) : Width :=
  capped (w.least * least) (match most with
    | some m => w.most * m
    | none => if w.most = 0 then 0 else limit)

end Width

mutual

def Node.width (groups : Nat → Width) : Node → Width
  | .code _ _ | .any _ | .set _ _ _ => ⟨1, 1⟩
  | .anchor _ | .look _ _ _ => .zero
  | .seq parts => widthAll groups parts
  | .alt branches => widthAny groups branches
  | .group _ body | .atomic body => body.width groups
  | .repeated _ least most body => (body.width groups).times least most
  | .same _ index => groups index
  | .ifGroup _ yes no => (yes.width groups).either (no.width groups)

def widthAll (groups : Nat → Width) : List Node → Width
  | [] => .zero
  | n :: rest => (n.width groups).add (widthAll groups rest)

def widthAny (groups : Nat → Width) : List Node → Width
  | [] => .zero
  | [n] => n.width groups
  | n :: rest => (n.width groups).either (widthAny groups rest)

end

mutual

/-- The number of nodes and of repetitions that are required, which bounds how
deep a search can go. -/
def Node.size : Node → Nat
  | .seq parts | .alt parts => 1 + sizeAll parts
  | .group _ body | .atomic body | .look _ _ body => 1 + body.size
  | .repeated _ least _ body => 1 + least + body.size
  | .ifGroup _ yes no => 1 + yes.size + no.size
  | .code _ _ | .any _ | .set _ _ _ | .anchor _ | .same _ _ => 1

def sizeAll : List Node → Nat
  | [] => 0
  | n :: rest => 1 + n.size + sizeAll rest

end

end Pattern
end MetricPaths
