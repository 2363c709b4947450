import MetricPaths.Files
import MetricPaths.Metric

/-! What the program asks of the libraries that it is built on: to compile patterns and templates,
to read documents and settings, to render a template and to show a line of markup. All that is
done with their answers is defined here and in the modules above for any libraries; what is proved
of it holds of each. -/
namespace MetricPaths

structure Settings where
  configFile : Option String
  lead : String
  format : String
  logLevel : String
deriving Repr, DecidableEq

/-- How a library refuses a text: with the fault that it has for such texts, which the program
tells as its own failure, or in an accident, which nobody expects. -/
inductive Refusal where
  | reported
  | accident (a : Accident)
deriving Repr, DecidableEq

namespace Template

/-- Why rendering stops. The text is known where a missing value was used or an attribute is out
of reach. A fault that holds a number too long to be written has no text, and asking for one is
an accident. -/
inductive RenderFault where
  | told (text : String)
  | untold
  | mute (a : Accident)
deriving Repr, DecidableEq

end Template

/-- The libraries. Their answers depend on what they are given and on nothing else, but for
rendering: what it reads and can leave changed, such as lists that templates share or the state
of chance, is part of `Shared`. -/
class Libraries where
  CompiledPattern : Type
  compilePattern : String → Except Refusal CompiledPattern
  isFound : CompiledPattern → String → Bool
  CompiledTemplate : Type
  compileTemplate : String → Except Refusal CompiledTemplate
  Shared : Type
  share : Value → Shared
  render : CompiledTemplate → Metric → Shared → Except Template.RenderFault String × Shared
  /-- Reads the bytes of a document. -/
  readDocument : List UInt8 → Except Refusal Value
  /-- Reads an environment and the files of the directory at hand. -/
  readSettings : List (String × String) → Files → Except Accident Settings
  /-- What a console shows of a line of markup, unless the markup is at fault. -/
  showLine : String → Option String

/-- A pattern keeps the text it was compiled from. -/
structure Pattern [Libraries] where
  source : String
  compiled : Libraries.CompiledPattern
  isCompiled : Libraries.compilePattern source = .ok compiled

namespace Pattern
variable [Libraries]

def compile (source : String) : Except Refusal Pattern :=
  match h : Libraries.compilePattern source with
  | .ok compiled => .ok ⟨source, compiled, h⟩
  | .error refusal => .error refusal

def isFoundIn (p : Pattern) (text : String) : Bool := Libraries.isFound p.compiled text

@[simp] theorem compile_source (p : Pattern) : compile p.source = .ok p := by
  obtain ⟨source, compiled, h⟩ := p
  unfold compile
  split
  · next c h' => rw [h] at h'; cases h'; rfl
  · next r h' => rw [h] at h'; cases h'

theorem source_of_compile {s : String} {p : Pattern} (h : compile s = .ok p) : p.source = s := by
  unfold compile at h
  split at h
  · cases h; rfl
  · cases h

end Pattern

namespace Template

def invalid (source : String) : Failure :=
  ⟨.template, "Invalid template", [("template", .str source)]⟩

def refused (source : String) : Refusal → Problem
  | .reported => .failure (invalid source)
  | .accident a => .accident a

def stopped (source message : String) : Failure :=
  ⟨.template, message, [("template", .str source)]⟩

/-- What comes of a template that stops. Its failure tells the text of the fault, and where that
cannot be written there is no failure either. -/
def RenderFault.problem (source : String) : RenderFault → Problem
  | .told text => .failure (stopped source ("Template rendering failed: " ++ text))
  | .untold => .failure (stopped source "Template rendering failed")
  | .mute a => .accident a

variable [Libraries]

def renderText (source : String) (metric : Metric) (shared : Libraries.Shared) :
    Except Problem String × Libraries.Shared :=
  match Libraries.compileTemplate source with
  | .error refusal => (.error (refused source refusal), shared)
  | .ok template =>
    match Libraries.render template metric shared with
    | (.ok s, left) => (.ok s, left)
    | (.error fault, left) => (.error (fault.problem source), left)

end Template
end MetricPaths
