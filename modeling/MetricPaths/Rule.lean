import MetricPaths.Libraries

/-! Rules: which metrics one is for, what path it adds, and whether later rules are
asked too. -/
namespace MetricPaths
open Libraries (Shared)

/-- An exact predicate without a value asks that the label be absent. A rule without
a template adds no path. -/
structure Rule [Libraries] where
  exact : List (String × Option String)
  patterns : List (String × Pattern)
  template : Option String
  continues : Bool

namespace Rule
variable [Libraries]

def holdsExactly (metric : Metric) (predicate : String × Option String) : Bool :=
  metric.get? predicate.1 = predicate.2

/-- Whether a pattern is found in the value of a label; in no value nothing is found. -/
def holdsPattern (metric : Metric) (predicate : String × Pattern) : Bool :=
  match metric.get? predicate.1 with
  | some value => predicate.2.isFoundIn value
  | none => false

def isMatch (rule : Rule) (metric : Metric) : Bool :=
  rule.exact.all (holdsExactly metric) && rule.patterns.all (holdsPattern metric)

def matching (metric : Metric) (rules : List Rule) : List Nat :=
  (rules.zipIdx.filter fun (rule, _) => rule.isMatch metric).map (·.2)

/-- The template that is rendered; an empty one is none. -/
def source? (rule : Rule) : Option String := rule.template.filter (· ≠ "")

def paths (rule : Rule) (metric : Metric) (shared : Shared) : Except Problem (List String) × Shared :=
  match rule.source? with
  | none => (.ok [], shared)
  | some source =>
    match Template.renderText source metric shared with
    | (.ok path, left) => (.ok [path], left)
    | (.error problem, left) => (.error problem, left)

def toValue (rule : Rule) : Value :=
  .map [
    (.str "match", .map (rule.exact.map fun (label, value) => (.str label, .ofText? value))),
    (.str "match_re", .map (rule.patterns.map fun (label, pattern) => (.str label, .str pattern.source))),
    (.str "template", .ofText? rule.template),
    (.str "continue", .bool rule.continues)]

/-! Rules read from documents. `ofFields` trusts what it is given but for the
`continue` flag; `parse` checks everything and blames the rule's place in the table. -/

def fieldNames : List String := ["match", "match_re", "template", "continue"]

def templateOf? (v : Value) : Option String :=
  match v with
  | .str s => if s = "" then none else some s
  | _ => none

def field (name : String) (entries : List (Value × Value)) : Value :=
  (Value.field? name entries).getD .null

def entriesOf (v : Value) : Except Problem (List (Value × Value)) :=
  if v.isFalsy then .ok []
  else match v.entries? with
    | some entries => .ok entries
    | none => .error (.accident .type)

def exactOf (e : Value × Value) : Except Problem (String × Option String) :=
  match e with
  | (.str label, .str value) => .ok (label, some value)
  | (.str label, .null) => .ok (label, none)
  | _ => .error (.accident .type)

def accidentOf : Refusal → Accident
  | .reported => .pattern
  | .accident a => a

def patternOf (e : Value × Value) : Except Problem (String × Pattern) :=
  match e with
  | (.str label, .str source) =>
    match Pattern.compile source with
    | .ok p => .ok (label, p)
    | .error refusal => .error (.accident (accidentOf refusal))
  | _ => .error (.accident .type)

/-- A rule from fields that nobody has checked; unknown ones do not matter. -/
def ofFields (entries : List (Value × Value)) : Except Problem Rule := do
  match (Value.field? "continue" entries).getD (.bool false) with
  | .bool continues =>
    let exact ← (← entriesOf (field "match" entries)).mapM exactOf
    let patterns ← (← entriesOf (field "match_re" entries)).mapM patternOf
    return ⟨exact, patterns, templateOf? (field "template" entries), continues⟩
  | other =>
    .error (.failure ⟨.configuration, "Rule continue must be a boolean", [("continue", other)]⟩)

inductive Fault where
  | notMapping
  | unknownFields (names : List String)
  /-- A field whose name cannot even be written. -/
  | unwritableField
  | predicatesNotMapping (field : String)
  | predicateNotText (field : String) (label : Value)
  | pattern (label source : String) (refusal : Refusal)
  | templateNotText
  | template (source : String) (refusal : Refusal)
  | continueNotTruth
deriving Repr

/-- The failure that blames the rule at an index of the table. A name that cannot be written
is not blamed on its rule, nor is an accident with a pattern or a template. -/
def Fault.problem (index : Int) (fault : Fault) : Problem :=
  let blame (message : String) (details : Details) : Problem :=
    .failure ⟨.configuration, message, ("rule", .int index) :: details⟩
  match fault with
  | .notMapping => blame "Rule must be a mapping" []
  | .unknownFields names =>
    blame "Unknown rule keys" [("keys", .str (Value.commaSeparated names))]
  | .unwritableField => .accident .value
  | .predicatesNotMapping field =>
    blame ("Rule " ++ field ++ " must be a mapping") []
  | .predicateNotText field label =>
    blame ("Rule " ++ field ++ " entries must be strings") [("label", label)]
  | .pattern label source .reported =>
    blame "Invalid match_re pattern" [("label", .str label), ("pattern", .str source)]
  | .pattern _ _ (.accident a) => .accident a
  | .templateNotText => blame "Rule template must be a string" []
  | .template source .reported => blame "Invalid template" [("template", .str source)]
  | .template _ (.accident a) => .accident a
  | .continueNotTruth => blame "Rule continue must be a boolean" []

/-- The texts of the fields that no rule has, in code-point order. -/
def unknownFields (entries : List (Value × Value)) : List String :=
  Metric.sortNames ((entries.filter fun e => match e.1 with
    | .str s => !fieldNames.contains s
    | _ => true).map fun e => e.1.text)

def checkFields (entries : List (Value × Value)) : Except Fault Unit :=
  let unknown := unknownFields entries
  if unknown.isEmpty then .ok ()
  else if entries.all (·.1.isWritable) then .error (.unknownFields unknown)
  else .error .unwritableField

def textEntry (field : String) (e : Value × Value) : Except Fault (String × String) :=
  match e with
  | (.str label, .str value) => .ok (label, value)
  | (label, _) => .error (.predicateNotText field label)

def textEntries (field : String) (v : Value) : Except Fault (List (String × String)) :=
  match v with
  | .null => .ok []
  | v => match v.entries? with
    | some entries => entries.mapM (textEntry field)
    | none => .error (.predicatesNotMapping field)

def compileEntry (e : String × String) : Except Fault (String × Pattern) :=
  match Pattern.compile e.2 with
  | .ok p => .ok (e.1, p)
  | .error refusal => .error (.pattern e.1 e.2 refusal)

def checkTemplate (v : Value) : Except Fault (Option String) :=
  match v with
  | .null => .ok none
  | .str s =>
    match Libraries.compileTemplate s with
    | .ok _ => .ok (templateOf? v)
    | .error refusal => .error (.template s refusal)
  | _ => .error .templateNotText

def checkContinue (v : Option Value) : Except Fault Bool :=
  match v with
  | none => .ok false
  | some (.bool b) => .ok b
  | some _ => .error .continueNotTruth

/-- A rule from an entry of a rule table, every part of it checked. -/
def parse (v : Value) : Except Fault Rule := do
  match v.entries? with
  | none => .error .notMapping
  | some entries =>
    checkFields entries
    let exact ← textEntries "match" (field "match" entries)
    let sources ← textEntries "match_re" (field "match_re" entries)
    let patterns ← sources.mapM compileEntry
    let template ← checkTemplate (field "template" entries)
    let continues ← checkContinue (Value.field? "continue" entries)
    return ⟨exact.map fun (label, value) => (label, some value), patterns, template, continues⟩

def parseAll (index : Nat) : List Value → Except Problem (List Rule)
  | [] => .ok []
  | v :: rest =>
    match parse v with
    | .error fault => .error (fault.problem index)
    | .ok rule => (parseAll (index + 1) rest).map (rule :: ·)

end Rule
end MetricPaths
