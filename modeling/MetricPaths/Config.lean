import MetricPaths.Rule
import MetricPaths.Translation

/-! Configurations: the lead and the layout of default paths, the rule table and the
data that templates share. Everything is checked when a configuration is made, from a document
or from the rules file that holds one. -/
namespace MetricPaths

/-- `data` is read-only at every depth. -/
structure Config [Libraries] where
  lead : String
  layout : Layout
  rules : List Rule
  data : Value

namespace Config
variable [Libraries]

def standard : Config := ⟨"", .dotted, [], .view []⟩

def translator (c : Config) : Translator := ⟨c.rules, c.lead, .layout c.layout⟩

def shared (c : Config) : Libraries.Shared := Libraries.share c.data

def toValue (c : Config) : Value :=
  .map [
    (.str "prefix", .str c.lead),
    (.str "format", .str c.layout.name),
    (.str "write", .map [
      (.str "template_data", c.data.thaw),
      (.str "rules", .list (c.rules.map Rule.toValue))])]

def unknownFormat (name : String) : Failure :=
  ⟨.configuration, "Unknown output format: " ++ name,
    [("valid", .str (Value.commaSeparated (Layout.all.map Layout.name)))]⟩

def parseFormat (name : String) : Except Problem Layout :=
  match Layout.ofName? name with
  | some l => .ok l
  | none => .error (.failure (unknownFormat name))

def wrongShape (message : String) : Problem := .failure ⟨.configuration, message, []⟩

/-- A mapping; a falsy value stands for one without entries. -/
def mappingOr (message : String) (v : Value) : Except Problem (List (Value × Value)) :=
  if v.isFalsy then .ok []
  else match v.entries? with
    | some entries => .ok entries
    | none => .error (wrongShape message)

def listOr (message : String) (v : Value) : Except Problem (List Value) :=
  if v.isFalsy then .ok []
  else match v with
    | .list items => .ok items
    | _ => .error (wrongShape message)

def textOr (message : String) (v : Value) : Except Problem String :=
  match v with
  | .str s => .ok s
  | _ => .error (wrongShape message)

def writtenText (v : Value) : Except Problem String :=
  if v.isWritable then .ok v.text else .error (.accident .value)

/-- The configuration that a document describes; what it leaves open comes from the
settings. -/
def ofValue (document : Value) (settings : Settings) : Except Problem Config := do
  let root ← mappingOr "Configuration root must be a mapping" document
  let write ← mappingOr "write section must be a mapping" (Rule.field "write" root)
  let data ← mappingOr "write.template_data must be a mapping" (Rule.field "template_data" write)
  let table ← listOr "write.rules must be a list" (Rule.field "rules" write)
  let lead ← textOr "prefix must be a string" ((Value.field? "prefix" root).getD (.str settings.lead))
  let format ← writtenText ((Value.field? "format" root).getD (.str settings.format))
  let layout ← parseFormat format
  let rules ← Rule.parseAll 0 table
  return ⟨lead, layout, rules, Value.freeze (.map data)⟩

/-! Rules files. -/

def notFound (path : String) : Failure :=
  ⟨.configuration, "Configuration file not found", [("path", .str path)]⟩

def invalidDocument (path : String) : Failure :=
  ⟨.configuration, "Invalid YAML", [("path", .str path)]⟩

def fileToLoad (path : Option String) (settings : Settings) : Option String :=
  let nonEmpty (p : Option String) : Option String := p.filter (· ≠ "")
  ((nonEmpty path).or (nonEmpty settings.configFile)).map Files.normal

def documentOf (path : String) : Content → Except Problem Value
  | .directory => .error (.accident .directory)
  | .bytes data =>
    match Libraries.readDocument data with
    | .ok v => .ok v
    | .error .reported => .error (.failure (invalidDocument path))
    | .error (.accident a) => .error (.accident a)

def readFile (files : Files) (path : String) : Except Problem Value :=
  match files.find? path with
  | .error a => .error (.accident a)
  | .ok none => .error (.failure (notFound path))
  | .ok (some content) => documentOf path content

def loadFile (files : Files) (path : String) (settings : Settings) : Except Problem Config := do
  ofValue (← readFile files path) settings

def loaded (path : String) (c : Config) : Log.Entry :=
  ⟨"config_loaded", .info,
    [("path", .str path), ("rules", .int c.rules.length), ("format", .str c.layout.name)]⟩

/-- Loads a configuration. Without a file it holds what the settings say. -/
def load (files : Files) (path : Option String) (settings : Settings) :
    Except Problem Config × Log :=
  match fileToLoad path settings with
  | none =>
    (ofValue .null settings, [⟨"no_config_file", .debug, [("prefix", .str settings.lead)]⟩])
  | some path =>
    match loadFile files path settings with
    | .ok c => (.ok c, [loaded path c])
    | .error p => (.error p, [])

end Config
end MetricPaths
