import MetricPaths.Proofs.Command
import MetricPaths.Proofs.Json.RoundTrip
import MetricPaths.Proofs.Yaml.LongNumber
import MetricPaths.Proofs.Metric.Arguments
import MetricPaths.Proofs.RulesFile

/-! What `translate` shows. It goes through four stages, the first of which that fails gives the
exit code; if none does, the paths are shown, as JSON in a line that spells these paths and no
others. -/
namespace MetricPaths

namespace Translator
variable [Libraries]

/-- A metric with a name fails in a layout only through a template, that of a rule for it. -/
theorem problem_of_paths_error {t : Translator} {l : Layout} {metric : Metric} {name : String}
    {shared : Libraries.Shared} {fault : Fault} (layout : t.choice = .layout l)
    (named : metric.name? = some name) (h : (t.paths metric shared).1 = .error fault) :
    (∃ index source message, (index, source) ∈ t.templates metric ∧ fault.problem =
        .failure ⟨.template, message, [("template", .str source), ("rule", .int index)]⟩) ∨
      ∃ a, fault = .accident a := by
  obtain ⟨found, left, hr⟩ | ⟨index, source, problem, left, hs⟩ :=
    renders_or_stopsAt metric shared (t.templates metric)
  · rw [paths_of_renders t named hr, layout, Metric.defaultPath_of_name named] at h
    split at h
    · cases h
    · cases h
  · rw [paths_of_stopsAt t named hs] at h
    cases h
    obtain ⟨_, hr⟩ := hs.renderText_eq
    rcases Template.renderText_error hr with ⟨message, rfl⟩ | ⟨a, rfl, -⟩
    · exact .inl ⟨index, source, message, hs.mem, rfl⟩
    · exact .inr ⟨a, rfl⟩

end Translator

namespace Problem

def Tellable (threshold : Nat) : Problem → Prop
  | .failure f => Command.Tellable threshold f
  | .accident _ => True

theorem Tellable.mono {threshold threshold' : Nat} {p : Problem} (h : p.Tellable threshold)
    (le : threshold ≤ threshold') : p.Tellable threshold' := by
  cases p with
  | failure f => exact fun e he => ⟨fun logged => (h e he).1 (le.trans logged), (h e he).2⟩
  | accident a => exact trivial

def exitCode : Problem → Nat
  | .failure f => f.exitCode
  | .accident _ => Command.unknownCode

def told : Problem → String
  | .failure f => Command.told f
  | .accident _ => ""

def IsFree : Problem → Prop
  | .failure f => Command.IsFree f
  | .accident _ => True

end Problem

namespace Command

variable {threshold : Nat} {p : Problem}

theorem concludeAt_ofProblem (free : p.IsFree) (tellable : p.Tellable threshold) :
    (concludeAt threshold {} (.ofProblem p)).exit = .ok p.exitCode ∧
      (concludeAt threshold {} (.ofProblem p)).message = p.told := by
  cases p with
  | failure f =>
    rw [Ending.ofProblem, concludeAt_of_tellable free tellable]
    exact ⟨rfl, rfl⟩
  | accident a => exact ⟨rfl, rfl⟩

theorem exists_accident_ofProblem (free : p.IsFree) (untold : ¬ p.Tellable threshold) :
    ∃ a, (concludeAt threshold {} (.ofProblem p)).exit = .error a := by
  cases p with
  | failure f => exact exists_accident_of_not_tellable free untold
  | accident a => exact absurd trivial untold

end Command

namespace CommandLine
open Config

/-- The event of a failure that a command logs, which nothing else in its log has. -/
def IsQuiet (log : Log) : Prop := ∀ e ∈ log, e.event ≠ "command_error"

theorem isQuiet_log (fault : Translator.Fault) : IsQuiet fault.log := by
  cases fault <;> simp [IsQuiet, Translator.Fault.log]

theorem isTextual_jsonOfPaths (found : List String) : (jsonOfPaths found).isTextual := by
  rw [jsonOfPaths, Json.isTextual]
  induction found with
  | nil => rfl
  | cons path rest ih => exact Bool.and_eq_true_iff.2 ⟨rfl, ih⟩

section
variable [Libraries]

/-- The layout that is asked for, or else that of a configuration. An empty name asks for none. -/
def Translate.layout (a : Translate) (c : Config) : Except Problem Layout :=
  match a.format.filter (· ≠ "") with
  | none => .ok c.layout
  | some name => parseFormat name

/-- The lead that is given, even an empty one, or else that of a configuration. -/
def Translate.translator (a : Translate) (c : Config) (layout : Layout) : Translator :=
  ⟨c.rules, a.lead.getD c.lead, .layout layout⟩

def Translate.paths (a : Translate) (files : Files) (settings : Settings) :
    Except Problem (List String) := do
  let c ← (load files a.config settings).1
  let layout ← a.layout c
  let m ← (Metric.ofArguments a.name a.labels).mapError fun fault => .failure fault.failure
  ((a.translator c layout).paths m c.shared).1.mapError (·.problem)

/-- The first stage of a translation that fails: the problem, and the exit code for it. -/
inductive Translate.FailsAt (a : Translate) (files : Files) (settings : Settings) :
    Problem → Nat → Prop
  | upset {accident : Accident} :
      (load files a.config settings).1 = .error (.accident accident) →
      FailsAt a files settings (.accident accident) 127
  | load {f : Failure} :
      (load files a.config settings).1 = .error (.failure f) →
      FailsAt a files settings (.failure f) 10
  | format {c : Config} {name : String} :
      (load files a.config settings).1 = .ok c →
      a.format = some name → name ≠ "" → Layout.ofName? name = none →
      FailsAt a files settings (.failure (unknownFormat name)) 10
  | labels {c : Config} {layout : Layout} {fault : Metric.ItemFault} :
      (load files a.config settings).1 = .ok c → a.layout c = .ok layout →
      Metric.ofArguments a.name a.labels = .error fault →
      FailsAt a files settings (.failure fault.failure) 12
  | paths {c : Config} {layout : Layout} {m : Metric} {fault : Translator.Fault} {f : Failure} :
      (load files a.config settings).1 = .ok c → a.layout c = .ok layout →
      Metric.ofArguments a.name a.labels = .ok m →
      ((a.translator c layout).paths m c.shared).1 = .error fault → fault.problem = .failure f →
      FailsAt a files settings (.failure f) 13
  | mishap {c : Config} {layout : Layout} {m : Metric} {accident : Accident} :
      (load files a.config settings).1 = .ok c → a.layout c = .ok layout →
      Metric.ofArguments a.name a.labels = .ok m →
      ((a.translator c layout).paths m c.shared).1 = .error (.accident accident) →
      FailsAt a files settings (.accident accident) 127

variable {a : Translate} {files : Files} {settings : Settings}

theorem Translate.layout_eq_error_iff {c : Config} {p : Problem} : a.layout c = .error p ↔
    ∃ name, a.format = some name ∧ name ≠ "" ∧ Layout.ofName? name = none ∧
      p = .failure (unknownFormat name) := by
  rw [layout]
  cases hf : a.format.filter (· ≠ "") with
  | none =>
    rw [Option.filter_eq_none_iff] at hf
    refine iff_of_false (by simp) ?_
    rintro ⟨name, hn, ne, -⟩
    exact hf name hn (by simpa using ne)
  | some name =>
    obtain ⟨hn, ne⟩ := Option.filter_eq_some_iff.1 hf
    rw [decide_eq_true_iff] at ne
    simp only [parseFormat]
    constructor
    · intro h
      split at h
      · cases h
      · next unknown =>
        cases h
        exact ⟨name, hn, ne, unknown, rfl⟩
    · rintro ⟨other, ho, -, unknown, rfl⟩
      obtain rfl := Option.some.inj (hn.symm.trans ho)
      rw [unknown]

theorem Translate.paths_eq_error_iff {p : Problem} :
    a.paths files settings = .error p ↔ ∃ code, a.FailsAt files settings p code := by
  simp only [paths, bind_eq_error_iff, layout_eq_error_iff, mapError_eq_error_iff,
    mapError_eq_ok_iff]
  constructor
  · rintro (h | ⟨c, hc, ⟨name, hn, ne, unknown, rfl⟩ | ⟨layout, hl, ⟨fault, hm, rfl⟩ |
      ⟨m, hm, fault, hp, rfl⟩⟩⟩)
    · cases p with
      | failure f => exact ⟨10, .load h⟩
      | accident accident => exact ⟨127, .upset h⟩
    · exact ⟨10, .format hc hn ne unknown⟩
    · exact ⟨12, .labels hc hl hm⟩
    · cases fault with
      | accident accident => exact ⟨127, .mishap hc hl hm hp⟩
      | _ => exact ⟨13, .paths hc hl hm hp rfl⟩
  · rintro ⟨code, failsAt⟩
    cases failsAt with
    | upset h => exact .inl h
    | load h => exact .inl h
    | format hc hn ne unknown => exact .inr ⟨_, hc, .inl ⟨_, hn, ne, unknown, rfl⟩⟩
    | labels hc hl hm => exact .inr ⟨_, hc, .inr ⟨_, hl, .inl ⟨_, hm, rfl⟩⟩⟩
    | paths hc hl hm hp hf =>
      exact .inr ⟨_, hc, .inr ⟨_, hl, .inr ⟨_, hm, _, hp, hf⟩⟩⟩
    | mishap hc hl hm hp =>
      exact .inr ⟨_, hc, .inr ⟨_, hl, .inr ⟨_, hm, _, hp, rfl⟩⟩⟩

theorem Translate.exists_of_paths_failure {c : Config} {layout : Layout} {m : Metric}
    {fault : Translator.Fault} {f : Failure} (hm : Metric.ofArguments a.name a.labels = .ok m)
    (hp : ((a.translator c layout).paths m c.shared).1 = .error fault)
    (hf : fault.problem = .failure f) : ∃ index source message,
    (index, source) ∈ (a.translator c layout).templates m ∧
      f = ⟨.template, message, [("template", .str source), ("rule", .int index)]⟩ := by
  obtain ⟨index, source, message, mem, problem⟩ | ⟨accident, rfl⟩ :=
    Translator.problem_of_paths_error rfl (Metric.name?_of_ofArguments hm) hp
  · exact ⟨index, source, message, mem, Problem.failure.inj (hf.symm.trans problem)⟩
  · cases hf

theorem Translate.FailsAt.exitCode_eq {p : Problem} {code : Nat}
    (h : a.FailsAt files settings p code) : p.exitCode = code := by
  cases h with
  | upset => rfl
  | load h => exact congrArg FailureKind.exitCode (isConfiguration_of_load h).1
  | format => rfl
  | @labels _ _ fault => cases fault <;> rfl
  | paths _ _ hm hp hf =>
    obtain ⟨_, _, _, -, rfl⟩ := exists_of_paths_failure hm hp hf
    rfl
  | mishap => rfl

theorem Translate.FailsAt.isFree {p : Problem} {code : Nat} (h : a.FailsAt files settings p code) :
    p.IsFree := by
  cases h with
  | upset => exact trivial
  | load h => exact (isConfiguration_of_load h).2
  | format => exact rfl
  | @labels _ _ fault => cases fault <;> exact rfl
  | paths _ _ hm hp hf =>
    obtain ⟨_, _, _, -, rfl⟩ := exists_of_paths_failure hm hp hf
    exact rfl
  | mishap => exact trivial

theorem isQuiet_load (files : Files) (path : Option String) (settings : Settings) :
    IsQuiet (load files path settings).2 := by
  rw [load]
  cases fileToLoad path settings with
  | none => simp [IsQuiet]
  | some path =>
    dsimp only
    cases loadFile files path settings <;> simp [IsQuiet, loaded]

theorem configFor_eq {w : World} (hs : Libraries.readSettings w.environment w.files = .ok settings)
    (a : Translate) : configFor w a =
      ((load w.files a.config settings).1 >>= fun c => (a.layout c).map fun l =>
        { c with lead := a.lead.getD c.lead, layout := l }, (load w.files a.config settings).2) := by
  rw [configFor, hs]
  dsimp only
  rcases load w.files a.config settings with ⟨p | c, log⟩
  · rfl
  · simp only [Translate.layout]
    cases a.format.filter (· ≠ "") with
    | none => rfl
    | some name => cases parseFormat name <;> rfl

/-- The command does what its stages compute. -/
theorem translate_eq {w : World} (hs : Libraries.readSettings w.environment w.files = .ok settings)
    (a : Translate) : ∃ log, IsQuiet log ∧ CommandLine.translate w a =
      match a.paths w.files settings with
      | .ok found => .done log (showPaths a.json found)
      | .error p => .failed log p := by
  have quiet := isQuiet_load w.files a.config settings
  rw [CommandLine.translate, configFor_eq hs, Translate.paths]
  cases (load w.files a.config settings).1 with
  | error p => exact ⟨_, quiet, rfl⟩
  | ok c =>
    cases hl : a.layout c with
    | error p => exact ⟨_, quiet, by simp [hl, bind, Except.bind, Except.map]⟩
    | ok layout =>
      simp only [hl, bind, Except.bind, Except.map]
      cases Metric.ofArguments a.name a.labels with
      | error fault => exact ⟨_, quiet, rfl⟩
      | ok m =>
        have same (c' : Config) (h : c' = { c with lead := a.lead.getD c.lead, layout := layout }) :
            c'.translator.paths m c'.shared = (a.translator c layout).paths m c.shared := by
          rw [h]
          rfl
        simp only [Except.mapError, same _ rfl]
        cases ((a.translator c layout).paths m c.shared).1 with
        | error fault => exact ⟨_, List.forall_mem_append.2 ⟨quiet, isQuiet_log fault⟩, rfl⟩
        | ok found => exact ⟨_, quiet, rfl⟩

theorem perform_eq (w : World) (threshold : Nat) (request : Request) :
    perform w threshold request =
      let report := Command.concludeAt threshold {} (request.work w).ending
      ⟨report.exit, (request.work w).shown, report.message,
        ((request.work w).log ++ report.log).atLeast threshold⟩ := rfl

theorem run_eq {w : World} {arguments : List String} {level : Option String} {request : Request}
    {threshold : Nat} (hl : lineOf arguments = .ok ⟨level, some request⟩)
    (ht : thresholdFor w level = .ok threshold) :
    run w arguments = .ran (perform w threshold request) := by
  rw [run, hl]
  dsimp only
  rw [ht]

theorem work_parse_of_ok {w : World} {a : Parse} {lead : String} {found : List (String × String)}
    (hlead : leadFor w a.lead = .ok lead) (h : LabelPath.labels a.path lead = .ok found) :
    Request.work w (.parse a) = .done [] (showLabels a found) := by
  rw [Request.work, parse, hlead]
  dsimp only
  rw [h]

theorem work_parse_of_error {w : World} {a : Parse} {lead : String} {fault : LabelPath.Fault}
    (hlead : leadFor w a.lead = .ok lead) (h : LabelPath.labels a.path lead = .error fault) :
    Request.work w (.parse a) = .failed [] (.failure fault.failure) := by
  rw [Request.work, parse, hlead]
  dsimp only
  rw [h]

theorem perform_translate {w : World} (hs : Libraries.readSettings w.environment w.files = .ok settings)
    {found : List String} (h : a.paths w.files settings = .ok found) (threshold : Nat) :
    (perform w threshold (.translate a)).exit = .ok 0 ∧
      (perform w threshold (.translate a)).shown = showPaths a.json found := by
  obtain ⟨log, -, work⟩ := translate_eq hs a
  rw [h] at work
  rw [perform_eq, Request.work, work]
  exact ⟨rfl, rfl⟩

theorem perform_translate_of_failsAt {w : World}
    (hs : Libraries.readSettings w.environment w.files = .ok settings) {p : Problem} {code : Nat}
    (h : a.FailsAt w.files settings p code) (threshold : Nat) :
    (p.Tellable threshold → (perform w threshold (.translate a)).exit = .ok code) ∧
      (¬ p.Tellable threshold →
        ∃ accident, (perform w threshold (.translate a)).exit = .error accident) ∧
      (perform w threshold (.translate a)).shown = [] := by
  obtain ⟨log, -, work⟩ := translate_eq hs a
  rw [Translate.paths_eq_error_iff.2 ⟨code, h⟩] at work
  rw [perform_eq, Request.work, work, ← h.exitCode_eq]
  exact ⟨fun tellable => (Command.concludeAt_ofProblem h.isFree tellable).1,
    Command.exists_accident_ofProblem h.isFree, rfl⟩

/-- What the lead and the layout of a loaded configuration come from: the document, and what it
leaves open the settings. -/
theorem exists_document_of_load {path : Option String} {c : Config}
    (h : (load files path settings).1 = .ok c) : ∃ document root,
      documentFor files path settings = .ok document ∧
      mappingOr "Configuration root must be a mapping" document = .ok root ∧
      (Value.field? "prefix" root).getD (.str settings.lead) = .str c.lead ∧
      (formatOf root settings).text = c.layout.name := by
  rw [load_fst, bind_eq_ok_iff] at h
  obtain ⟨document, hd, h⟩ := h
  obtain ⟨root, write, data, table, format, hroot, -, -, -, hlead, hformat, hlayout, -, -⟩ :=
    ofValue_eq_ok_iff.1 h
  refine ⟨document, root, hd, hroot, ?_, ?_⟩
  · unfold textOr at hlead
    split at hlead
    · next s hs =>
      cases hlead
      exact hs
    · cases hlead
  · have text : (formatOf root settings).text = format := by
      unfold writtenText at hformat
      split_ifs at hformat with writable
      exact Except.ok.inj hformat
    rw [text]
    unfold parseFormat at hlayout
    split at hlayout
    · next layout named =>
      cases hlayout
      rw [Layout.ofName?] at named
      have same := List.find?_some named
      rw [decide_eq_true_iff] at same
      exact same.symm
    · cases hlayout

/-- With `--json`, paths that are computed are shown in one line of printable ASCII, which
spells their list and no other value. The lead is the one that is given, even an empty one, or
else that of the document, or else that of the settings; the layout likewise, but that an empty
name asks for none. If a stage fails nothing is shown, and the exit code is that of the stage,
unless the failure cannot be told. -/
theorem translate_json_shows_paths {w : World} {arguments : List String} {level : Option String}
    {a : Translate} {settings : Settings} {threshold : Nat}
    (hl : lineOf arguments = .ok ⟨level, some (.translate a)⟩) (json : a.json = true)
    (hs : Libraries.readSettings w.environment w.files = .ok settings)
    (ht : thresholdFor w level = .ok threshold) :
    ∃ r, run w arguments = .ran r ∧
      (∀ found, a.paths w.files settings = .ok found →
        r.exit = .ok 0 ∧ r.shown = [.text ((jsonOfPaths found).write ++ "\n")] ∧
        (∀ c ∈ (jsonOfPaths found).write.toList, Json.isPlain c) ∧
        Json.read? (jsonOfPaths found).write = some (jsonOfPaths found)) ∧
      (∀ p, a.paths w.files settings = .error p → ∃ code, a.FailsAt w.files settings p code) ∧
      (∀ p code, a.FailsAt w.files settings p code →
        a.paths w.files settings = .error p ∧ r.shown = [] ∧
        (p.Tellable threshold → r.exit = .ok code) ∧
        (¬ p.Tellable threshold → ∃ accident, r.exit = .error accident)) ∧
      ∀ c, (load w.files a.config settings).1 = .ok c → ∃ document root,
        documentFor w.files a.config settings = .ok document ∧
        mappingOr "Configuration root must be a mapping" document = .ok root ∧
        (Value.field? "prefix" root).getD (.str settings.lead) = .str c.lead ∧
        (formatOf root settings).text = c.layout.name := by
  refine ⟨_, run_eq hl ht, fun found h => ?_, fun p => Translate.paths_eq_error_iff.1,
    fun p code failsAt => ?_, fun c => exists_document_of_load⟩
  · have textual := isTextual_jsonOfPaths found
    obtain ⟨exit, shown⟩ := perform_translate hs h threshold
    rw [showPaths, json, if_pos rfl] at shown
    exact ⟨exit, shown, Json.isPlain_of_mem_write textual, Json.read?_write textual⟩
  · obtain ⟨told, untold, shown⟩ := perform_translate_of_failsAt hs failsAt threshold
    exact ⟨Translate.paths_eq_error_iff.2 ⟨code, failsAt⟩, shown, told, untold⟩

end

def leadingWorld : World := ⟨[("GRAPHITE_BRIDGE_DEFAULT_PREFIX", "p.")], []⟩

def leadingSettings : Settings := { Settings.standard with lead := "p." }

theorem translate_json_sample : ∃ r,
    run leadingWorld ["translate", "--json", "up", "-l", "é=ü", "--prefix", ""] = .ran r ∧
    r.exit = .ok 0 ∧ r.shown = [.text ((jsonOfPaths ["up.é.%C3%BC"]).write ++ "\n")] := by
  have line : lineOf ["translate", "--json", "up", "-l", "é=ü", "--prefix", ""] =
      .ok ⟨none, some (.translate ⟨"up", ["é=ü"], none, some "", none, true⟩)⟩ := by rfl
  have settings : Settings.read leadingWorld.environment leadingWorld.files = .ok leadingSettings := by
    decide +kernel
  have threshold : thresholdFor leadingWorld none = .ok 20 := by decide +kernel
  obtain ⟨r, ran, shows, -⟩ := translate_json_shows_paths line rfl settings threshold
  have found : (Translate.paths ⟨"up", ["é=ü"], none, some "", none, true⟩ leadingWorld.files
      leadingSettings).toOption = some ["up.é.%C3%BC"] := by decide +kernel
  cases hp : Translate.paths ⟨"up", ["é=ü"], none, some "", none, true⟩ leadingWorld.files
      leadingSettings with
  | error p =>
    rw [hp] at found
    cases found
  | ok paths =>
    rw [hp] at found
    cases found
    obtain ⟨exit, shown, -⟩ := shows _ hp
    exact ⟨r, ran, exit, shown⟩

/-- The label of a rule is a number of more digits than can be written: the failure to load would
give 10, and the command ends in an accident. -/
theorem translate_json_of_longNumber : ∃ f r,
    Translate.FailsAt ⟨"up", [], some "r.yaml", none, none, true⟩ (labelledFile 3580) .standard
      (.failure f) 10 ∧
    run ⟨[], labelledFile 3580⟩ ["translate", "up", "--json", "--config", "r.yaml"] = .ran r ∧
    r.shown = [] ∧ ∃ accident, r.exit = .error accident := by
  let a : Translate := ⟨"up", [], some "r.yaml", none, none, true⟩
  let w : World := ⟨[], labelledFile 3580⟩
  have line : lineOf ["translate", "up", "--json", "--config", "r.yaml"] =
      .ok ⟨none, some (.translate a)⟩ := by rfl
  have settings : Libraries.readSettings w.environment w.files = .ok .standard := by rfl
  have threshold : thresholdFor w none = .ok 20 := by decide +kernel
  have failsAt : a.FailsAt w.files .standard _ 10 := .load (blames_labelledFile 3580).load_eq
  obtain ⟨-, ends, shown⟩ := perform_translate_of_failsAt settings failsAt 20
  have long := mt (Value.isWritable_powerOfSixteen 3580).1 (by decide)
  have untold {label : Value} (h : ¬ label.isWritable) :
      ¬ ((Rule.Fault.predicateNotText "match" label).problem 0).Tellable 20 := by
    simp [Problem.Tellable, Command.Tellable, Rule.Fault.problem, Value.Tells, h]
  exact ⟨_, _, failsAt, run_eq line threshold, shown, ends (untold long)⟩

end CommandLine
end MetricPaths
