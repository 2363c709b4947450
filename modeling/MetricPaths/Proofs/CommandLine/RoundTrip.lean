import MetricPaths.Proofs.CommandLine.Translate
import MetricPaths.Proofs.LabelPath.RoundTrip

/-! What `translate` writes, `parse` reads back, if no rule is for the metric and the layout is the
dotted one, and if the lead with which the path is read is the one with which it was written, but
for dots. The two leads need not be the same: that of a rules file is used for writing only. -/
namespace MetricPaths
open LabelPath (dots)

namespace Metric

theorem labels_foldl_insert {m : Metric} {labels : List (String × String)}
    (h : (m.names ++ labels.map Prod.fst).Nodup) :
    (labels.foldl (fun m e => m.insert e.1 e.2) m).labels = m.labels ++ labels := by
  induction labels generalizing m with
  | nil => exact (List.append_nil _).symm
  | cons e rest ih =>
    have fresh : e.1 ∉ m.names := notMem_of_nodup h
    have names := names_insert_of_notMem e.2 fresh
    rw [List.foldl_cons, ih (by simpa [names] using h), labels_insert_of_notMem e.2 fresh,
      List.append_assoc]
    rfl

theorem labels_ofList {labels : List (String × String)} (h : (labels.map Prod.fst).Nodup) :
    (ofList labels).labels = labels :=
  labels_foldl_insert (m := empty) (by simpa [names, empty] using h)

theorem dotFree_of_ofArguments {name : String} {items : List String} {m : Metric}
    (h : ofArguments name items = .ok m)
    (dotFree : ∀ item ∈ items, '.' ∉ item.toList.takeWhile (· ≠ '=')) :
    ∀ e ∈ m.others, '.' ∉ e.1.toList := by
  obtain ⟨labels, spelled, -, hl⟩ := ofArguments_eq_ok_iff.1 h
  intro e he
  obtain ⟨mem, other⟩ := mem_others.1 he
  rw [hl, List.mem_cons] at mem
  rcases mem with rfl | mem
  · exact absurd rfl other
  · obtain ⟨item, hi, spells⟩ := exists_of_mem_forall₂ spelled mem
    rw [spells.name_eq]
    exact dotFree item hi

end Metric

namespace Translator
variable [Libraries]

/-- A metric that no rule is for has the default path. -/
theorem paths_of_unmatched {t : Translator} {l : Layout} {m : Metric} {name : String}
    (layout : t.choice = .layout l) (named : m.name? = some name)
    (unmatched : Rule.matching m t.rules = []) (shared : Libraries.Shared) :
    (t.paths m shared).1 = .ok [t.lead ++ String.ofList
      (l.write (Segment.escape name.toList) m.tags)] := by
  have asked : t.asked m = [] := by
    rw [← Rule.matched_indexes, List.map_eq_nil_iff] at unmatched
    rw [Translator.asked, unmatched]
    rfl
  have renders : Renders m shared (t.templates m) [] shared := by
    rw [Translator.templates, asked]
    exact .nil
  rw [paths_of_renders t named renders, asked, layout, Metric.defaultPath_of_name named, Metric.tags_eq]
  rfl

end Translator

namespace CommandLine
open Config

theorem isTextual_jsonOfMetric (m : Metric) : (jsonOfMetric m).isTextual := by
  rw [jsonOfMetric, Json.isTextual]
  induction m.labels with
  | nil => rfl
  | cons e rest ih => exact Bool.and_eq_true_iff.2 ⟨rfl, ih⟩

/-- A result that shows a metric as JSON, in whatever order, and nothing else. -/
def Result.Shows (r : Result) (m : Metric) : Prop :=
  r.exit = .ok 0 ∧ ∃ m' : Metric, m'.SameLabels m ∧
    r.shown = [.text ((jsonOfMetric m').write ++ "\n")] ∧
    Json.read? (jsonOfMetric m').write = some (jsonOfMetric m')

theorem lineOf_parse (path : String) :
    lineOf ["parse", "--json", "--", path] = .ok ⟨none, some (.parse ⟨path, none, true⟩)⟩ := rfl

section
variable [Libraries]
variable {w : World} {settings : Settings}

/-- A path in the dotted layout is read with its lead, but for dots. -/
theorem shows_parse {m : Metric} {name lead : String} (named : m.name? = some name)
    (nonEmpty : name ≠ "") (dotFree : ∀ e ∈ m.others, '.' ∉ e.1.toList) (k : Nat)
    {a : Parse} (json : a.json = true) (hlead : leadFor w a.lead = .ok lead)
    (path : a.path = lead ++ dots k ++ String.ofList
      (Layout.dotted.write (Segment.escape name.toList) m.tags)) (threshold : Nat) :
    (perform w threshold (.parse a)).Shows m := by
  have read : LabelPath.labels a.path lead = .ok ((nameLabel, name) :: m.others) := by
    rw [path, Metric.tags_eq]
    exact LabelPath.labels_dotted lead k nonEmpty dotFree
  have distinct : (((nameLabel, name) :: m.others).map Prod.fst).Nodup :=
    ((Metric.labels_perm named).map Prod.fst).nodup_iff.1 m.distinct
  rw [perform_eq, work_parse_of_ok hlead read]
  refine ⟨rfl, Metric.ofList ((nameLabel, name) :: m.others), ?_, ?_,
    Json.read?_write (isTextual_jsonOfMetric _)⟩
  · rw [Metric.sameLabels_iff_perm, Metric.labels_ofList distinct]
    exact (Metric.labels_perm named).symm
  · simp only [Work.done, showLabels, json, if_true]

theorem paths_of_load {name : String} {items : List String} {c : Config} {m : Metric} (json : Bool)
    (hload : (load w.files none settings).1 = .ok c)
    (spelled : Metric.ofArguments name items = .ok m)
    (unmatched : Rule.matching m c.rules = []) :
    Translate.paths ⟨name, items, none, none, none, json⟩ w.files settings =
      .ok [c.lead ++ String.ofList (c.layout.write (Segment.escape name.toList) m.tags)] := by
  have found : (Translator.paths ⟨c.rules, c.lead, .layout c.layout⟩ m c.shared).1 =
      .ok [c.lead ++ String.ofList (c.layout.write (Segment.escape name.toList) m.tags)] :=
    Translator.paths_of_unmatched rfl (Metric.name?_of_ofArguments spelled) unmatched c.shared
  rw [Translate.paths, hload, spelled]
  simp only [Translate.layout, Translate.translator, bind, Except.bind, Except.mapError,
    Option.filter_none, Option.getD_none]
  rw [found]

theorem exists_threshold_of_exit {arguments : List String} {level : Option String}
    {request : Request} {r : Result} {code : Int}
    (hl : lineOf arguments = .ok ⟨level, some request⟩) (ran : run w arguments = .ran r)
    (exit : r.exit = .ok code) : ∃ threshold, r = perform w threshold request := by
  rw [run, hl] at ran
  dsimp only at ran
  cases ht : thresholdFor w level with
  | error accident =>
    rw [ht] at ran
    cases ran
    cases exit
  | ok threshold =>
    rw [ht] at ran
    cases ran
    exact ⟨threshold, rfl⟩

/-- If a metric is written in the dotted layout since no rule is for it, its path is read back by
every command line that reads it with the lead of which that of the configuration is made by
dots. Without an option this is the lead of the settings, whatever the rules file says. -/
theorem parse_reads_translated {arguments : List String} {level : Option String} {name : String}
    {items : List String} {c : Config} {m : Metric} {r : Result} {threshold : Nat}
    (hs : Libraries.readSettings w.environment w.files = .ok settings)
    (ht : thresholdFor w none = .ok threshold)
    (hl : lineOf arguments = .ok ⟨level, some (.translate ⟨name, items, none, none, none, true⟩)⟩)
    (ran : run w arguments = .ran r) (exit : r.exit = .ok 0)
    (hload : (load w.files none settings).1 = .ok c) (dotted : c.layout = .dotted)
    (spelled : Metric.ofArguments name items = .ok m)
    (unmatched : Rule.matching m c.rules = []) (nonEmpty : name ≠ "")
    (dotFree : ∀ item ∈ items, '.' ∉ item.toList.takeWhile (· ≠ '=')) :
    ∃ path, r.shown = [.text ((jsonOfPaths [path]).write ++ "\n")] ∧
      (∀ k, c.lead = settings.lead ++ dots k →
        ∃ r', run w ["parse", "--json", "--", path] = .ran r' ∧ r'.Shows m) ∧
      ∀ arguments' level' lead threshold' k,
        lineOf arguments' = .ok ⟨level', some (.parse ⟨path, some lead, true⟩)⟩ →
        thresholdFor w level' = .ok threshold' → c.lead = lead ++ dots k →
        ∃ r', run w arguments' = .ran r' ∧ r'.Shows m := by
  have named := Metric.name?_of_ofArguments spelled
  have others := Metric.dotFree_of_ofArguments spelled dotFree
  have found := paths_of_load true hload spelled unmatched
  rw [dotted] at found
  obtain ⟨threshold₀, rfl⟩ := exists_threshold_of_exit hl ran exit
  obtain ⟨-, shown⟩ := perform_translate hs found threshold₀
  refine ⟨_, shown, fun k lead => ?_, fun arguments' level' lead threshold' k hl' ht' hlead => ?_⟩
  · have settingsLead : leadFor w none = .ok settings.lead := by
      rw [leadFor, hs]
      rfl
    exact ⟨_, run_eq (lineOf_parse _) ht, shows_parse named nonEmpty others k rfl settingsLead
      (by rw [lead]) threshold⟩
  · exact ⟨_, run_eq hl' ht', shows_parse named nonEmpty others k rfl rfl (by rw [hlead]) threshold'⟩

end

def leadFile : Files := [("r.yaml", .bytes (Utf8.encode "prefix: p.\n".toList))]

/-- The lead of the settings is the one of the file without its dot. -/
def dottedWorld : World :=
  ⟨[("GRAPHITE_BRIDGE_CONFIG_FILE", "r.yaml"), ("GRAPHITE_BRIDGE_DEFAULT_PREFIX", "p")], leadFile⟩

def dottedSettings : Settings := { Settings.standard with configFile := some "r.yaml", lead := "p" }

def sampleMetric : Metric := .ofList [(nameLabel, "up"), ("job", "a/b")]

theorem parse_reads_translated_sample : ∃ r path r',
    run dottedWorld ["translate", "--json", "up", "-l", "job=a/b"] = .ran r ∧
    r.shown = [.text ((jsonOfPaths [path]).write ++ "\n")] ∧
    run dottedWorld ["parse", "--json", "--", path] = .ran r' ∧ r'.Shows sampleMetric := by
  have settings : Libraries.readSettings dottedWorld.environment dottedWorld.files = .ok dottedSettings := by
    decide +kernel
  have threshold : thresholdFor dottedWorld none = .ok 20 := by
    rw [thresholdFor, Option.filter_none, settings]
    decide +kernel
  have line : lineOf ["translate", "--json", "up", "-l", "job=a/b"] =
      .ok ⟨none, some (.translate ⟨"up", ["job=a/b"], none, none, none, true⟩)⟩ := by rfl
  have loads : ((load dottedWorld.files none dottedSettings).1.toOption.any fun c =>
      c.lead = "p." && c.layout = .dotted && c.rules.isEmpty) = true := by decide +kernel
  cases hload : (load dottedWorld.files none dottedSettings).1 with
  | error problem =>
    rw [hload] at loads
    cases loads
  | ok c =>
    rw [hload] at loads
    simp only [Except.toOption, Option.any_some, Bool.and_eq_true, decide_eq_true_iff,
      List.isEmpty_iff] at loads
    obtain ⟨⟨lead, dotted⟩, noRules⟩ := loads
    have unmatched : Rule.matching sampleMetric c.rules = [] := by rw [noRules]; rfl
    have spelled : Metric.ofArguments "up" ["job=a/b"] = .ok sampleMetric := by rfl
    have found := paths_of_load true hload spelled unmatched
    obtain ⟨exit, -⟩ := perform_translate settings found 20
    obtain ⟨path, shown, reads, -⟩ := parse_reads_translated settings threshold line
      (run_eq line threshold) exit hload dotted spelled unmatched (by decide) (by decide)
    obtain ⟨r', ran, shows⟩ := reads 1 (by rw [lead]; rfl)
    exact ⟨_, path, r', run_eq line threshold, shown, ran, shows⟩

def leadlessWorld : World := ⟨[("GRAPHITE_BRIDGE_CONFIG_FILE", "r.yaml")], leadFile⟩

def leadlessSettings : Settings := { Settings.standard with configFile := some "r.yaml" }

/-- With the lead of the file a path is written that is refused without it. -/
theorem parse_refuses_translated : ∃ r r',
    Settings.read leadlessWorld.environment leadlessWorld.files = .ok leadlessSettings ∧
    ((load leadlessWorld.files none leadlessSettings).1.toOption.any fun c =>
      c.lead = "p." && c.layout = .dotted && c.rules.isEmpty) = true ∧
    run leadlessWorld ["translate", "--json", "up"] = .ran r ∧ r.exit = .ok 0 ∧
    r.shown = [.text "[\"p.up\"]\n"] ∧
    run leadlessWorld ["parse", "--json", "--", "p.up"] = .ran r' ∧ r'.exit = .ok 14 ∧
    r'.shown = [] := by
  have settings : Libraries.readSettings leadlessWorld.environment leadlessWorld.files =
      .ok leadlessSettings := by decide +kernel
  have threshold : thresholdFor leadlessWorld none = .ok 20 := by
    rw [thresholdFor, Option.filter_none, settings]
    decide +kernel
  have line : lineOf ["translate", "--json", "up"] =
      .ok ⟨none, some (.translate ⟨"up", [], none, none, none, true⟩)⟩ := by rfl
  have loads : ((load leadlessWorld.files none leadlessSettings).1.toOption.any fun c =>
      c.lead = "p." && c.layout = .dotted && c.rules.isEmpty) = true := by decide +kernel
  have lead : leadFor leadlessWorld none = .ok "" := by
    rw [leadFor, settings]
    rfl
  have refused : LabelPath.labels "p.up" "" = .error (.oddSegments "p.up" 1) := by rfl
  have parsed : Request.work leadlessWorld (.parse ⟨"p.up", none, true⟩) =
      .failed [] (.failure (LabelPath.Fault.oddSegments "p.up" 1).failure) :=
    work_parse_of_error lead refused
  cases hload : (load leadlessWorld.files none leadlessSettings).1 with
  | error problem =>
    rw [hload] at loads
    cases loads
  | ok c =>
    rw [hload] at loads
    obtain ⟨⟨hlead, dotted⟩, noRules⟩ : (c.lead = "p." ∧ c.layout = .dotted) ∧ c.rules = [] := by
      simpa [Except.toOption] using loads
    have spelled : Metric.ofArguments "up" [] = .ok (.ofList [(nameLabel, "up")]) := by rfl
    have found := paths_of_load true hload spelled (by rw [noRules]; rfl)
    have path : "p." ++ String.ofList (Layout.dotted.write (Segment.escape "up".toList)
        (Metric.ofList [(nameLabel, "up")]).tags) = "p.up" := by decide +kernel
    rw [hlead, dotted, path] at found
    obtain ⟨exit, shown⟩ := perform_translate settings found 20
    refine ⟨_, _, settings, loads, run_eq line threshold, exit, shown.trans ?_,
      run_eq (lineOf_parse "p.up") threshold, ?_, ?_⟩
    · have text : (jsonOfPaths ["p.up"]).write ++ "\n" = "[\"p.up\"]\n" := by decide +kernel
      exact congrArg (fun s => [Shown.text s]) text
    · rw [perform_eq, parsed]
      decide +kernel
    · rw [perform_eq, parsed]
      rfl

end CommandLine
end MetricPaths
