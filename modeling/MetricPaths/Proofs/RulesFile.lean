import MetricPaths.CommandLine
import MetricPaths.Proofs.Command
import MetricPaths.Proofs.Config

/-! How the loading of a configuration can end. Whatever is wrong with a document is told as a
failure of the configuration, but for values that cannot be written and patterns that cannot be
used; a file that is no document at all can end it in other ways. -/
namespace MetricPaths

def Failure.IsConfiguration (f : Failure) : Prop :=
  f.kind = .configuration ∧ Command.IsFree f

namespace Rule

theorem textEntries_error {field : String} {v : Value} {fault : Fault}
    (h : textEntries field v = .error fault) :
    fault = .predicatesNotMapping field ∨ ∃ label, fault = .predicateNotText field label := by
  unfold textEntries at h
  split at h
  · cases h
  · split at h
    · obtain ⟨e, -, he⟩ := exists_of_mapM_eq_error h
      unfold textEntry at he
      split at he <;> cases he
      exact .inr ⟨_, rfl⟩
    · cases h
      exact .inl rfl

theorem checkContinue_error {v : Option Value} {fault : Fault}
    (h : checkContinue v = .error fault) : fault = .continueNotTruth := by
  unfold checkContinue at h
  split at h <;> cases h
  rfl

theorem checkFields_error {entries : List (Value × Value)} {fault : Fault}
    (h : checkFields entries = .error fault) : unknownFields entries ≠ [] ∧
      if entries.all (·.1.isWritable) then fault = .unknownFields (unknownFields entries)
      else fault = .unwritableField := by
  rw [checkFields] at h
  split_ifs at h with known writable
  · cases h
    exact ⟨mt List.isEmpty_iff.2 known, by rw [if_pos writable]⟩
  · cases h
    exact ⟨mt List.isEmpty_iff.2 known, by rw [if_neg writable]⟩

/-- Only a field that cannot be written and an accident are not blamed on the rule. -/
theorem Fault.problem_eq_accident_iff {fault : Fault} {index : Int} {a : Accident} :
    fault.problem index = .accident a ↔ fault = .unwritableField ∧ a = .value ∨
      (∃ label source, fault = .pattern label source (.accident a)) ∨
      ∃ source, fault = .template source (.accident a) := by
  cases fault with
  | unwritableField => simp [problem, eq_comm]
  | pattern label source refusal => cases refusal <;> simp [problem]
  | template source refusal => cases refusal <;> simp [problem]
  | _ => simp [problem]

theorem Fault.isConfiguration {fault : Fault} {index : Int} {f : Failure}
    (h : fault.problem index = .failure f) : f.IsConfiguration := by
  cases fault with
  | unwritableField => cases h
  | pattern label source refusal =>
    cases refusal <;> cases h
    exact ⟨rfl, rfl⟩
  | template source refusal =>
    cases refusal <;> cases h
    exact ⟨rfl, rfl⟩
  | _ =>
    cases h
    exact ⟨rfl, rfl⟩

variable [Libraries]

/-- The first entry of a table that is no rule, its index and its fault. -/
inductive StopsAt : List Value → Nat → Fault → Prop
  | here {v : Value} {rest : List Value} {fault : Fault} :
      parse v = .error fault → StopsAt (v :: rest) 0 fault
  | later {v : Value} {rest : List Value} {rule : Rule} {index : Nat} {fault : Fault} :
      parse v = .ok rule → StopsAt rest index fault → StopsAt (v :: rest) (index + 1) fault

theorem parseAll_eq_error_iff {start : Nat} {table : List Value} {problem : Problem} :
    parseAll start table = .error problem ↔ ∃ index fault, StopsAt table index fault ∧
      fault.problem (start + index : Nat) = problem := by
  induction table generalizing start with
  | nil =>
    constructor
    · intro h
      cases h
    · rintro ⟨_, _, stops, -⟩
      cases stops
  | cons v rest ih =>
    rw [parseAll]
    cases hv : parse v with
    | error fault =>
      constructor
      · intro h
        cases h
        exact ⟨0, fault, .here hv, rfl⟩
      · rintro ⟨index, other, stops, rfl⟩
        cases stops with
        | here h =>
          obtain rfl := Except.error.inj (hv.symm.trans h)
          rfl
        | later h _ => cases hv.symm.trans h
    | ok rule =>
      have later : (parseAll (start + 1) rest).map (rule :: ·) = .error problem ↔
          parseAll (start + 1) rest = .error problem := by
        cases parseAll (start + 1) rest <;> simp [Except.map]
      have shift (index : Nat) : start + 1 + index = start + (index + 1) := by omega
      dsimp only
      rw [later, ih]
      constructor
      · rintro ⟨index, fault, stops, rfl⟩
        exact ⟨index + 1, fault, .later hv stops, by rw [shift]⟩
      · rintro ⟨index, fault, stops, rfl⟩
        cases stops with
        | here h => cases hv.symm.trans h
        | later _ stops => exact ⟨_, fault, stops, by rw [shift]⟩

/-- What can be at fault with an entry, in the order in which its fields are checked. -/
theorem parse_eq_error {v : Value} {fault : Fault} (h : parse v = .error fault) :
    v.entries? = none ∧ fault = .notMapping ∨ ∃ entries, v.entries? = some entries ∧
      (checkFields entries = .error fault ∨
        textEntries "match" (field "match" entries) = .error fault ∨
        textEntries "match_re" (field "match_re" entries) = .error fault ∨
        (∃ sources, textEntries "match_re" (field "match_re" entries) = .ok sources ∧
          ∃ e ∈ sources, compileEntry e = .error fault) ∨
        checkTemplate (field "template" entries) = .error fault ∨
        checkContinue (Value.field? "continue" entries) = .error fault) := by
  rw [parse] at h
  cases hv : v.entries? with
  | none =>
    rw [hv] at h
    cases h
    exact .inl ⟨rfl, rfl⟩
  | some entries =>
    refine .inr ⟨entries, rfl, ?_⟩
    simp only [hv, bind_eq_error_iff] at h
    rcases h with h | ⟨_, -, h | ⟨exact, -, h | ⟨sources, hs, h | ⟨patterns, -, h | ⟨template, -,
      h | ⟨continues, -, h⟩⟩⟩⟩⟩⟩
    · exact .inl h
    · exact .inr (.inl h)
    · exact .inr (.inr (.inl h))
    · exact .inr (.inr (.inr (.inl ⟨sources, hs, exists_of_mapM_eq_error h⟩)))
    · exact .inr (.inr (.inr (.inr (.inl h))))
    · exact .inr (.inr (.inr (.inr (.inr h))))
    · cases h

theorem compileEntry_error {e : String × String} {fault : Fault}
    (h : compileEntry e = .error fault) :
    ∃ cause, Pattern.compile e.2 = .error cause ∧ fault = .pattern e.1 e.2 cause := by
  rw [compileEntry] at h
  cases hc : Pattern.compile e.2 with
  | ok p =>
    rw [hc] at h
    cases h
  | error cause =>
    rw [hc] at h
    exact ⟨cause, rfl, (Except.error.inj h).symm⟩

theorem checkTemplate_error {v : Value} {fault : Fault} (h : checkTemplate v = .error fault) :
    fault = .templateNotText ∨ ∃ source refusal,
      (v = .str source ∧ Libraries.compileTemplate source = .error refusal) ∧
        fault = .template source refusal := by
  unfold checkTemplate at h
  split at h
  · cases h
  · split at h
    · cases h
    · next refusal hc =>
      cases h
      exact .inr ⟨_, refusal, ⟨rfl, hc⟩, rfl⟩
  · cases h
    exact .inl rfl

theorem pattern_of_parse {v : Value} {label source : String} {refusal : Refusal}
    (h : parse v = .error (.pattern label source refusal)) : Pattern.compile source = .error refusal ∧
      ∃ entries sources, v.entries? = some entries ∧
        textEntries "match_re" (field "match_re" entries) = .ok sources ∧
        (label, source) ∈ sources := by
  obtain ⟨-, h⟩ | ⟨entries, hv, h | h | h | ⟨sources, hs, e, he, h⟩ | h | h⟩ := parse_eq_error h
  · cases h
  · obtain ⟨-, h⟩ := checkFields_error h
    split_ifs at h
  · obtain h | ⟨_, h⟩ := textEntries_error h <;> cases h
  · obtain h | ⟨_, h⟩ := textEntries_error h <;> cases h
  · obtain ⟨refusal, hc, hp⟩ := compileEntry_error h
    cases hp
    exact ⟨hc, entries, sources, hv, hs, he⟩
  · obtain h | ⟨_, _, -, h⟩ := checkTemplate_error h <;> cases h
  · cases checkContinue_error h

theorem template_of_parse {v : Value} {source : String} {refusal : Refusal}
    (h : parse v = .error (.template source refusal)) :
    Libraries.compileTemplate source = .error refusal ∧
      ∃ entries, v.entries? = some entries ∧ field "template" entries = .str source := by
  obtain ⟨-, h⟩ | ⟨entries, hv, h | h | h | ⟨sources, hs, e, he, h⟩ | h | h⟩ := parse_eq_error h
  · cases h
  · obtain ⟨-, h⟩ := checkFields_error h
    split_ifs at h
  · obtain h | ⟨_, h⟩ := textEntries_error h <;> cases h
  · obtain h | ⟨_, h⟩ := textEntries_error h <;> cases h
  · obtain ⟨_, -, h⟩ := compileEntry_error h
    cases h
  · obtain h | ⟨_, _, ⟨hf, hc⟩, h⟩ := checkTemplate_error h <;> cases h
    exact ⟨hc, entries, hv, hf⟩
  · cases checkContinue_error h

theorem StopsAt.parse_eq {table : List Value} {index : Nat} {fault : Fault}
    (h : StopsAt table index fault) : ∃ v, parse v = .error fault := by
  induction h with
  | here hv => exact ⟨_, hv⟩
  | later _ _ ih => exact ih

end Rule

namespace Config

theorem mappingOr_error {message : String} {v : Value} {p : Problem}
    (h : mappingOr message v = .error p) : p = wrongShape message := by
  unfold mappingOr at h
  split_ifs at h
  split at h <;> cases h
  rfl

theorem listOr_error {message : String} {v : Value} {p : Problem}
    (h : listOr message v = .error p) : p = wrongShape message := by
  unfold listOr at h
  split_ifs at h
  split at h <;> cases h
  rfl

theorem textOr_error {message : String} {v : Value} {p : Problem}
    (h : textOr message v = .error p) : p = wrongShape message := by
  unfold textOr at h
  split at h <;> cases h
  rfl

theorem parseFormat_error {name : String} {p : Problem} (h : parseFormat name = .error p) :
    p = .failure (unknownFormat name) := by
  unfold parseFormat at h
  split at h <;> cases h
  rfl

/-- What is checked of a document before its format. -/
def Sections (document : Value) (settings : Settings) (root : List (Value × Value))
    (table : List Value) : Prop :=
  ∃ write data lead,
    mappingOr "Configuration root must be a mapping" document = .ok root ∧
    mappingOr "write section must be a mapping" (Rule.field "write" root) = .ok write ∧
    mappingOr "write.template_data must be a mapping" (Rule.field "template_data" write) =
      .ok data ∧
    listOr "write.rules must be a list" (Rule.field "rules" write) = .ok table ∧
    textOr "prefix must be a string" ((Value.field? "prefix" root).getD (.str settings.lead)) =
      .ok lead

def formatOf (root : List (Value × Value)) (settings : Settings) : Value :=
  (Value.field? "format" root).getD (.str settings.format)

theorem wrongShape_isConfiguration {message : String} {f : Failure}
    (h : wrongShape message = .failure f) : f.IsConfiguration := by
  cases h
  exact ⟨rfl, rfl⟩

variable [Libraries]

/-- A document whose sections and format are accepted is as good as its table. -/
theorem Sections.ofValue_eq {document : Value} {settings : Settings} {root : List (Value × Value)}
    {table : List Value} {layout : Layout} (h : Sections document settings root table)
    (writable : (formatOf root settings).isWritable)
    (hl : parseFormat (formatOf root settings).text = .ok layout) : ∃ lead data,
    ofValue document settings =
      (Rule.parseAll 0 table).map fun rules => ⟨lead, layout, rules, data⟩ := by
  obtain ⟨write, data, lead, hroot, hwrite, hdata, htable, hlead⟩ := h
  have hformat : writtenText ((Value.field? "format" root).getD (.str settings.format)) =
      .ok (formatOf root settings).text := if_pos writable
  refine ⟨lead, Value.freeze (.map data), ?_⟩
  rw [ofValue, hroot]
  dsimp only [bind, Except.bind]
  rw [hwrite]
  dsimp only
  rw [hdata, htable, hlead, hformat]
  dsimp only
  rw [hl]
  rfl

theorem ofValue_eq_error {document : Value} {settings : Settings} {p : Problem}
    (h : ofValue document settings = .error p) :
    (∃ message, p = wrongShape message) ∨ (∃ name, p = .failure (unknownFormat name)) ∨
      ∃ root table, Sections document settings root table ∧
        ((¬ (formatOf root settings).isWritable ∧ p = .accident .value) ∨
          (formatOf root settings).isWritable ∧
            (∃ layout, parseFormat (formatOf root settings).text = .ok layout) ∧
            Rule.parseAll 0 table = .error p) := by
  simp only [ofValue, bind_eq_error_iff] at h
  rcases h with h | ⟨root, hroot, h | ⟨write, hwrite, h | ⟨data, hdata, h | ⟨table, htable,
    h | ⟨lead, hlead, h | ⟨format, hformat, h | ⟨layout, hlayout, h | ⟨rules, -, h⟩⟩⟩⟩⟩⟩⟩⟩
  · exact .inl ⟨_, mappingOr_error h⟩
  · exact .inl ⟨_, mappingOr_error h⟩
  · exact .inl ⟨_, mappingOr_error h⟩
  · exact .inl ⟨_, listOr_error h⟩
  · exact .inl ⟨_, textOr_error h⟩
  · refine .inr (.inr ⟨root, table, ⟨write, data, lead, hroot, hwrite, hdata, htable, hlead⟩, .inl ?_⟩)
    unfold writtenText at h
    split_ifs at h with writable
    cases h
    exact ⟨writable, rfl⟩
  · exact .inr (.inl ⟨_, parseFormat_error h⟩)
  · refine .inr (.inr ⟨root, table, ⟨write, data, lead, hroot, hwrite, hdata, htable, hlead⟩, .inr ?_⟩)
    unfold writtenText at hformat
    split_ifs at hformat with writable
    cases hformat
    exact ⟨writable, ⟨layout, hlayout⟩, h⟩
  · cases h

theorem isConfiguration_of_ofValue {document : Value} {settings : Settings} {f : Failure}
    (h : ofValue document settings = .error (.failure f)) : f.IsConfiguration := by
  obtain ⟨message, h⟩ | ⟨name, h⟩ | ⟨root, table, -, ⟨-, h⟩ | ⟨-, -, h⟩⟩ := ofValue_eq_error h
  · exact wrongShape_isConfiguration h.symm
  · cases h
    exact ⟨rfl, rfl⟩
  · cases h
  · obtain ⟨index, fault, -, h⟩ := Rule.parseAll_eq_error_iff.1 h
    exact fault.isConfiguration h

/-- Only a format that cannot be written and a rule that is not blamed can upset the reading
of a document. -/
theorem ofValue_eq_accident_iff {document : Value} {settings : Settings} {a : Accident} :
    ofValue document settings = .error (.accident a) ↔
      ∃ root table, Sections document settings root table ∧
        ((¬ (formatOf root settings).isWritable ∧ a = .value) ∨
          (formatOf root settings).isWritable ∧
            (∃ layout, parseFormat (formatOf root settings).text = .ok layout) ∧
            ∃ index fault, Rule.StopsAt table index fault ∧
              fault.problem index = .accident a) := by
  constructor
  · intro h
    obtain ⟨message, h⟩ | ⟨name, h⟩ | ⟨root, table, sections, cause⟩ := ofValue_eq_error h
    · cases h
    · cases h
    · refine ⟨root, table, sections, cause.imp ?_ ?_⟩
      · rintro ⟨unwritable, h⟩
        cases h
        exact ⟨unwritable, rfl⟩
      · rintro ⟨writable, layout, h⟩
        obtain ⟨index, fault, stops, h⟩ := Rule.parseAll_eq_error_iff.1 h
        rw [Nat.zero_add] at h
        exact ⟨writable, layout, index, fault, stops, h⟩
  · rintro ⟨root, table, sections, ⟨unwritable, rfl⟩ | ⟨writable, ⟨layout, hl⟩, index, fault, stops, h⟩⟩
    · obtain ⟨write, data, lead, hroot, hwrite, hdata, htable, hlead⟩ := sections
      simp only [ofValue, bind_eq_error_iff]
      exact .inr ⟨_, hroot, .inr ⟨_, hwrite, .inr ⟨_, hdata, .inr ⟨_, htable, .inr ⟨_, hlead,
        .inl (if_neg unwritable)⟩⟩⟩⟩⟩
    · obtain ⟨lead, data, eq⟩ := sections.ofValue_eq writable hl
      rw [eq, map_eq_error_iff]
      exact Rule.parseAll_eq_error_iff.2 ⟨index, fault, stops, by rwa [Nat.zero_add]⟩

/-- The document to load stops at an entry of its rule table. -/
structure Blames (files : Files) (path : Option String) (settings : Settings)
    (table : List Value) (index : Nat) (fault : Rule.Fault) : Prop where
  exists_document : ∃ document root layout, documentFor files path settings = .ok document ∧
    Sections document settings root table ∧ (formatOf root settings).isWritable ∧
    parseFormat (formatOf root settings).text = .ok layout
  stopsAt : Rule.StopsAt table index fault

theorem Blames.load_eq {files : Files} {path : Option String} {settings : Settings}
    {table : List Value} {index : Nat} {fault : Rule.Fault}
    (h : Blames files path settings table index fault) :
    (load files path settings).1 = .error (fault.problem index) := by
  obtain ⟨document, root, layout, hd, sections, writable, hl⟩ := h.exists_document
  obtain ⟨lead, data, eq⟩ := sections.ofValue_eq writable hl
  rw [load_fst, hd, bind_eq_error_iff]
  refine .inr ⟨document, rfl, ?_⟩
  rw [eq, map_eq_error_iff]
  exact Rule.parseAll_eq_error_iff.2 ⟨index, fault, h.stopsAt, by rw [Nat.zero_add]⟩

/-- What keeps a configuration from being loaded without a failure that says so. -/
inductive Upsets (files : Files) (path : Option String) (settings : Settings) : Accident → Prop
  | lookup {file : String} {a : Accident} : fileToLoad path settings = some file →
      files.find? file = .error a → Upsets files path settings a
  | directory {file : String} : fileToLoad path settings = some file →
      files.find? file = .ok (some .directory) → Upsets files path settings .directory
  | document {file : String} {data : List UInt8} {a : Accident} :
      fileToLoad path settings = some file → files.find? file = .ok (some (.bytes data)) →
      Libraries.readDocument data = .error (.accident a) → Upsets files path settings a
  | format {document : Value} {root : List (Value × Value)} {table : List Value} :
      documentFor files path settings = .ok document → Sections document settings root table →
      ¬ (formatOf root settings).isWritable → Upsets files path settings .value
  | field {table : List Value} {index : Nat} :
      Blames files path settings table index .unwritableField → Upsets files path settings .value
  | pattern {table : List Value} {index : Nat} {label source : String} {a : Accident} :
      Blames files path settings table index (.pattern label source (.accident a)) →
      Pattern.compile source = .error (.accident a) → Upsets files path settings a
  | template {table : List Value} {index : Nat} {source : String} {a : Accident} :
      Blames files path settings table index (.template source (.accident a)) →
      Libraries.compileTemplate source = .error (.accident a) → Upsets files path settings a

theorem documentFor_of_file {files : Files} {path : Option String} {settings : Settings}
    {file : String} (h : fileToLoad path settings = some file) :
    documentFor files path settings = readFile files file := by
  rw [documentFor, h]

theorem documentFor_eq_error {files : Files} {path : Option String} {settings : Settings}
    {p : Problem} (h : documentFor files path settings = .error p) :
    (∃ f, p = .failure f ∧ f.IsConfiguration) ∨ ∃ a, p = .accident a ∧ Upsets files path settings a := by
  cases hf : fileToLoad path settings with
  | none =>
    rw [documentFor, hf] at h
    cases h
  | some file =>
    rw [documentFor_of_file hf, readFile] at h
    cases hc : files.find? file with
    | error a =>
      rw [hc] at h
      cases h
      exact .inr ⟨a, rfl, .lookup hf hc⟩
    | ok found =>
      rw [hc] at h
      cases found with
      | none =>
        cases h
        exact .inl ⟨_, rfl, rfl, rfl⟩
      | some content =>
        cases content with
        | directory =>
          cases h
          exact .inr ⟨_, rfl, .directory hf hc⟩
        | bytes data =>
          dsimp only at h
          rw [documentOf] at h
          split at h
          · cases h
          · cases h
            exact .inl ⟨_, rfl, rfl, rfl⟩
          · next a hd =>
            cases h
            exact .inr ⟨a, rfl, .document hf hc hd⟩

theorem Upsets.load_eq {files : Files} {path : Option String} {settings : Settings}
    {a : Accident} (h : Upsets files path settings a) :
    (load files path settings).1 = .error (.accident a) := by
  have unread : documentFor files path settings = .error (.accident a) →
      (load files path settings).1 = .error (.accident a) :=
    fun h => by rw [load_fst, h]; rfl
  cases h with
  | lookup hf hc => exact unread (by rw [documentFor_of_file hf, readFile, hc])
  | directory hf hc => exact unread (by rw [documentFor_of_file hf, readFile, hc]; rfl)
  | document hf hc hd =>
    refine unread ?_
    rw [documentFor_of_file hf, readFile, hc]
    dsimp only
    rw [documentOf, hd]
  | format hd sections unwritable =>
    rw [load_fst, hd]
    exact ofValue_eq_accident_iff.2 ⟨_, _, sections, .inl ⟨unwritable, rfl⟩⟩
  | field blames => rw [blames.load_eq]; rfl
  | pattern blames _ => rw [blames.load_eq]; rfl
  | template blames _ => rw [blames.load_eq]; rfl

theorem load_eq_accident_iff {files : Files} {path : Option String} {settings : Settings}
    {a : Accident} :
    (load files path settings).1 = .error (.accident a) ↔ Upsets files path settings a := by
  refine ⟨fun h => ?_, Upsets.load_eq⟩
  rw [load_fst, bind_eq_error_iff] at h
  rcases h with h | ⟨document, hd, h⟩
  · obtain ⟨f, hp, -⟩ | ⟨a', hp, upset⟩ := documentFor_eq_error h
    · cases hp
    · cases hp
      exact upset
  · obtain ⟨root, table, sections, cause⟩ := ofValue_eq_accident_iff.1 h
    rcases cause with ⟨unwritable, rfl⟩ | ⟨writable, ⟨layout, hl⟩, index, fault, stops, hp⟩
    · exact .format hd sections unwritable
    · have blames : Blames files path settings table index fault :=
        ⟨⟨document, root, layout, hd, sections, writable, hl⟩, stops⟩
      obtain ⟨v, hv⟩ := stops.parse_eq
      obtain ⟨rfl, rfl⟩ | ⟨label, source, rfl⟩ | ⟨source, rfl⟩ :=
        Rule.Fault.problem_eq_accident_iff.1 hp
      · exact .field blames
      · exact .pattern blames (Rule.pattern_of_parse hv).1
      · exact .template blames (Rule.template_of_parse hv).1

theorem isConfiguration_of_load {files : Files} {path : Option String} {settings : Settings}
    {f : Failure} (h : (load files path settings).1 = .error (.failure f)) : f.IsConfiguration := by
  rw [load_fst, bind_eq_error_iff] at h
  rcases h with h | ⟨document, -, h⟩
  · obtain ⟨f', hp, configuration⟩ | ⟨a, hp, -⟩ := documentFor_eq_error h
    · cases hp
      exact configuration
    · cases hp
  · exact isConfiguration_of_ofValue h

end Config

namespace CommandLine
open Config

section
variable [Libraries]

inductive Request.Loads : Request → Option String → Prop
  | check (file : String) : Loads (.check file) (some file)
  | translate (a : Translate) : Loads (.translate a) a.config

theorem Request.Loads.work_eq {request : Request} {path : Option String} {w : World}
    {settings : Settings} {p : Problem} (loads : request.Loads path)
    (hs : Libraries.readSettings w.environment w.files = .ok settings)
    (h : (load w.files path settings).1 = .error p) :
    request.work w = .failed (load w.files path settings).2 p := by
  rcases hl : load w.files path settings with ⟨result, log⟩
  obtain rfl : result = .error p := by rwa [hl] at h
  cases loads with
  | check file => simp only [Request.work, CommandLine.check, hs, hl]
  | translate a => simp only [Request.work, CommandLine.translate, configFor, hs, hl]

theorem Request.Loads.ending_work {request : Request} {path : Option String} {w : World}
    {settings : Settings} {p : Problem} (loads : request.Loads path)
    (hs : Libraries.readSettings w.environment w.files = .ok settings)
    (h : (load w.files path settings).1 = .error p) : (request.work w).ending = .ofProblem p := by
  rw [loads.work_eq hs h, Work.failed]

theorem exit_perform (w : World) (threshold : Nat) (request : Request) :
    (perform w threshold request).exit =
      (Command.concludeAt threshold {} (request.work w).ending).exit := rfl

end

def malformedFile : Files := [("r.yaml", .bytes (Utf8.encode "write: [".toList))]

def undecodableFile : Files := [("r.yaml", .bytes [0xFF])]

end CommandLine
end MetricPaths
