import MetricPaths.Config
import MetricPaths.Proofs.Layout
import MetricPaths.Proofs.Rule
import MetricPaths.Proofs.Translation

/-! What is settled when a configuration is loaded. Its rules have been checked and its
layout is one of the three, so that nothing is left to go wrong for a metric with a name
but the rendering of a template. -/
namespace MetricPaths
namespace Config

/-- What comes of a fault that stops a template: a failure that tells the template and nothing
else, or an accident if the fault has no text. -/
theorem problem_of_renderFault (source : String) (stop : Template.RenderFault) :
    (∃ rest, stop.problem source =
        .failure ⟨.template, "Template rendering failed" ++ rest, [("template", .str source)]⟩) ∨
      ∃ a, stop = .mute a ∧ stop.problem source = .accident a := by
  cases stop with
  | told text =>
    refine Or.inl ⟨": " ++ text, ?_⟩
    rw [← String.append_assoc]
    rfl
  | untold => exact Or.inl ⟨"", rfl⟩
  | mute a => exact Or.inr ⟨a, rfl, rfl⟩

section
variable [Libraries]

theorem ofValue_eq_ok_iff {document : Value} {settings : Settings} {c : Config} :
    ofValue document settings = .ok c ↔ ∃ root write data table format,
      mappingOr "Configuration root must be a mapping" document = .ok root ∧
      mappingOr "write section must be a mapping" (Rule.field "write" root) = .ok write ∧
      mappingOr "write.template_data must be a mapping" (Rule.field "template_data" write) =
        .ok data ∧
      listOr "write.rules must be a list" (Rule.field "rules" write) = .ok table ∧
      textOr "prefix must be a string" ((Value.field? "prefix" root).getD (.str settings.lead)) =
        .ok c.lead ∧
      writtenText ((Value.field? "format" root).getD (.str settings.format)) = .ok format ∧
      parseFormat format = .ok c.layout ∧ Rule.parseAll 0 table = .ok c.rules ∧
      c.data = Value.freeze (.map data) := by
  obtain ⟨lead, layout, rules, frozen⟩ := c
  simp only [ofValue, bind_eq_ok_iff, pure_eq_ok_iff, Config.mk.injEq]
  constructor
  · rintro ⟨root, hroot, write, hwrite, data, hdata, table, htable, _, hlead, format, hformat, _,
      hlayout, _, hrules, rfl, rfl, rfl, rfl⟩
    exact ⟨root, write, data, table, format, hroot, hwrite, hdata, htable, hlead, hformat, hlayout,
      hrules, rfl⟩
  · rintro ⟨root, write, data, table, format, hroot, hwrite, hdata, htable, hlead, hformat, hlayout,
      hrules, rfl⟩
    exact ⟨root, hroot, write, hwrite, data, hdata, table, htable, _, hlead, format, hformat, _,
      hlayout, _, hrules, rfl, rfl, rfl, rfl⟩

def documentFor (files : Files) (path : Option String) (settings : Settings) :
    Except Problem Value :=
  match fileToLoad path settings with
  | none => .ok .null
  | some path => readFile files path

theorem load_fst (files : Files) (path : Option String) (settings : Settings) :
    (load files path settings).1 = documentFor files path settings >>= (ofValue · settings) := by
  rw [load, documentFor]
  cases fileToLoad path settings with
  | none => rfl
  | some path =>
    dsimp only
    rw [← loadFile]
    cases loadFile files path settings <;> rfl

/-- A configuration that a document or a file has given. -/
inductive Loaded : Config → Prop
  | document {v : Value} {settings : Settings} {c : Config} :
      ofValue v settings = .ok c → Loaded c
  | file {files : Files} {path : Option String} {settings : Settings} {c : Config} :
      (load files path settings).1 = .ok c → Loaded c

theorem Loaded.exists_document {c : Config} (h : c.Loaded) :
    ∃ v settings, ofValue v settings = .ok c := by
  cases h with
  | document h => exact ⟨_, _, h⟩
  | file h =>
    rw [load_fst, bind_eq_ok_iff] at h
    obtain ⟨v, -, hv⟩ := h
    exact ⟨v, _, hv⟩

theorem checked_of_ofValue {v : Value} {settings : Settings} {c : Config}
    (h : ofValue v settings = .ok c) : ∀ rule ∈ c.rules, rule.Checked := by
  obtain ⟨_, _, _, _, _, -, -, -, -, -, -, -, hrules, -⟩ := ofValue_eq_ok_iff.1 h
  exact Rule.Checked.of_parseAll hrules

/-- A metric with a name has paths by a loaded configuration, or a template that can be read
stops while it is rendered: that of a rule that is for the metric. The failure then tells its text
and its rule's index and nothing else, and the only other end is the accident of a fault that
has no text. -/
theorem Loaded.paths_ok_or_stopped {c : Config} (loaded : c.Loaded) {metric : Metric}
    {name : String} (named : metric.name? = some name) (shared : Libraries.Shared) :
    (∃ found, (c.translator.paths metric shared).1 = .ok found) ∨
      ∃ (index : Nat) (rule : Rule) (source : String) (template : Libraries.CompiledTemplate)
        (stop : Template.RenderFault) (middle left : Libraries.Shared) (fault : Translator.Fault),
        c.rules[index]? = some rule ∧ rule.isMatch metric ∧ rule.template = some source ∧
        Libraries.compileTemplate source = .ok template ∧
        Libraries.render template metric middle = (.error stop, left) ∧
        (c.translator.paths metric shared).1 = .error fault ∧
        ((∃ rest, fault.problem = .failure ⟨.template, "Template rendering failed" ++ rest,
            [("template", .str source), ("rule", .int index)]⟩) ∨
          ∃ a, stop = .mute a ∧ fault.problem = .accident a) := by
  obtain ⟨v, settings, hv⟩ := loaded.exists_document
  obtain ⟨found, left, h⟩ | ⟨index, source, problem, left, h⟩ :=
    Translator.renders_or_stopsAt metric shared (c.translator.templates metric)
  · left
    rw [Translator.paths_of_renders _ named h]
    simp only [translator, Metric.defaultPath_of_name named]
    split_ifs
    · exact ⟨_, rfl⟩
    · exact ⟨_, rfl⟩
  · right
    obtain ⟨rule, hi, hm, hs⟩ := Translator.mem_templates h.mem
    obtain ⟨ht, -⟩ := Rule.source?_eq_some_iff.1 hs
    have checked := checked_of_ofValue hv rule (List.mem_of_getElem? hi)
    obtain ⟨-, readable, hc⟩ := checked.readable source ht
    obtain ⟨middle, hr⟩ := h.renderText_eq
    -- The template was read when the rule was checked, so it is not refused now.
    obtain ⟨refusal, refused, -⟩ | ⟨template, stop, hc, stops, rfl⟩ :=
      Template.renderText_eq_error_iff.1 hr
    · rw [hc] at refused
      cases refused
    refine ⟨index, rule, source, template, stop, middle, left, _, hi, hm, ht, hc, stops,
      congrArg Prod.fst (Translator.paths_of_stopsAt _ named h), ?_⟩
    obtain ⟨rest, hp⟩ | ⟨a, rfl, hp⟩ := problem_of_renderFault source stop
    · rw [hp]
      exact Or.inl ⟨rest, rfl⟩
    · rw [hp]
      exact Or.inr ⟨a, rfl, rfl⟩

end

def documentOfTemplate (template : String) : Value :=
  .map [(.str "write", .map [(.str "rules", .list [.map [(.str "template", .str template)]])])]

theorem Loaded.stopped_sample :
    ∃ c, ofValue (documentOfTemplate "\x7b\x7b labels.zone \x7d\x7d") .standard = .ok c ∧
      (Metric.ofList [(nameLabel, "up")]).name? = some "up" ∧
      ∃ (index : Nat) (rule : Rule) (source : String) (fault : Translator.Fault),
        c.rules[index]? = some rule ∧ rule.template = some source ∧
        (c.translator.paths (.ofList [(nameLabel, "up")]) c.shared).1 = .error fault := by
  have stops : ((ofValue (documentOfTemplate "\x7b\x7b labels.zone \x7d\x7d") .standard).toOption.any
      fun c => (c.translator.paths (.ofList [(nameLabel, "up")]) c.shared).1.toOption.isNone) = true := by
    decide +kernel
  obtain ⟨c, hc, none⟩ := exists_of_toOption_any stops
  have named : (Metric.ofList [(nameLabel, "up")]).name? = some "up" := by decide
  refine ⟨c, hc, named, ?_⟩
  obtain ⟨found, h⟩ | ⟨index, rule, source, -, -, -, -, fault, hi, -, ht, -, -, h, -⟩ :=
    (Loaded.document hc).paths_ok_or_stopped named c.shared
  · simp [h, Except.toOption] at none
  · exact ⟨index, rule, source, fault, hi, ht, h⟩

/-- A loaded rule whose template takes a key out of a dictionary that has none: a key too long
to be written, for some metrics. -/
theorem Loaded.accident_of_longKey :
    ∃ c, ofValue (documentOfTemplate Translator.numberTaken) .standard = .ok c ∧
      (c.translator.paths (.ofList [(nameLabel, "up"), ("n", "5000")]) c.shared).1 =
        .error (.accident .value) := by
  have stops : ((ofValue (documentOfTemplate Translator.numberTaken) .standard).toOption.any fun c =>
      match (c.translator.paths (.ofList [(nameLabel, "up"), ("n", "5000")]) c.shared).1 with
      | .error (.accident a) => decide (a = .value)
      | _ => false) = true := by
    decide +kernel
  obtain ⟨c, hc, stops⟩ := exists_of_toOption_any stops
  refine ⟨c, hc, ?_⟩
  split at stops
  · next h => rw [h, of_decide_eq_true stops]
  · cases stops

end Config
end MetricPaths
