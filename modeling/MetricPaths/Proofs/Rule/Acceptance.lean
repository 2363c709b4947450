import MetricPaths.Proofs.RulesFile
import MetricPaths.Proofs.Yaml.LongNumber

/-! The entries of a rule table that are accepted. What is checked of an entry comes down to a few
conditions on its fields. An entry that meets them gives the rule that it would give unchecked;
any other is blamed by its index, the first one of a table. -/
namespace MetricPaths
namespace Rule

def IsTextMapping (p : String → Prop) (v : Value) : Prop :=
  ∃ entries, v.entries? = some entries ∧
    ∀ e ∈ entries, ∃ label text, e = (.str label, .str text) ∧ p text

theorem forall_field?_iff {p : Value → Prop} (hp : p .null) (name : String)
    (entries : List (Value × Value)) :
    (∀ v, Value.field? name entries = some v → p v) ↔ p (field name entries) := by
  cases h : Value.field? name entries with
  | none => simp [field, h, hp]
  | some v => simp [field, h]

theorem exists_checkContinue_iff {v : Option Value} :
    (∃ continues, checkContinue v = .ok continues) ↔ ∀ w, v = some w → ∃ b, w = .bool b := by
  cases v with
  | none => simp [checkContinue]
  | some w => cases w <;> simp [checkContinue]

theorem getD_of_checkContinue {v : Option Value} {continues : Bool}
    (h : checkContinue v = .ok continues) : v.getD (.bool false) = .bool continues := by
  unfold checkContinue at h
  split at h <;> cases h <;> rfl

section Texts

variable {name : String} {v : Value} {texts : List (String × String)}

theorem textEntry_eq_ok_iff {e : Value × Value} {text : String × String} :
    textEntry name e = .ok text ↔ e = (.str text.1, .str text.2) := by
  constructor
  · intro h
    unfold textEntry at h
    split at h <;> cases h
    rfl
  · rintro rfl
    rfl

theorem mapM_textEntry_eq_ok_iff {entries : List (Value × Value)} :
    entries.mapM (textEntry name) = .ok texts ↔
      entries = texts.map fun e => (.str e.1, .str e.2) := by
  rw [mapM_eq_ok_iff, ← List.forall₂_eq_eq_eq, List.forall₂_map_right_iff]
  simp only [textEntry_eq_ok_iff]

theorem textEntries_eq_ok_iff : textEntries name v = .ok texts ↔
    v = .null ∧ texts = [] ∨ v.entries? = some (texts.map fun e => (.str e.1, .str e.2)) := by
  cases v with
  | map | view => simp [textEntries, Value.entries?, mapM_textEntry_eq_ok_iff]
  | null => simp [textEntries, Value.entries?, eq_comm]
  | _ => simp [textEntries, Value.entries?]

theorem isTextMapping_iff {p : String → Prop} : IsTextMapping p v ↔
    ∃ texts : List (String × String), v.entries? = some (texts.map fun e => (.str e.1, .str e.2)) ∧
      ∀ e ∈ texts, p e.2 := by
  constructor
  · rintro ⟨entries, hv, all⟩
    choose! label text he hp using all
    refine ⟨entries.map fun e => (label e, text e), ?_, List.forall_mem_map.2 hp⟩
    rw [hv, List.map_map]
    exact congrArg some ((List.map_id _).symm.trans (List.map_congr_left he))
  · rintro ⟨texts, hv, all⟩
    refine ⟨_, hv, fun e he => ?_⟩
    obtain ⟨text, ht, rfl⟩ := List.mem_map.1 he
    exact ⟨text.1, text.2, rfl, all text ht⟩

theorem exists_textEntries_iff {p : String → Prop} :
    (∃ texts, textEntries name v = .ok texts ∧ ∀ e ∈ texts, p e.2) ↔
      v = .null ∨ IsTextMapping p v := by
  simp only [textEntries_eq_ok_iff, isTextMapping_iff, or_and_right, exists_or]
  refine or_congr_left ⟨fun ⟨_, h, _⟩ => h.1, fun h => ⟨[], ⟨h, rfl⟩, by simp⟩⟩

theorem entriesOf_of_textEntries (h : textEntries name v = .ok texts) :
    entriesOf v = .ok (texts.map fun e => (.str e.1, .str e.2)) := by
  obtain ⟨rfl, rfl⟩ | hv := textEntries_eq_ok_iff.1 h
  · rfl
  · rw [entriesOf, hv]
    split_ifs with falsy
    · cases v <;> simp_all [Value.isFalsy, Value.entries?]
    · rfl

end Texts

theorem Fault.exists_details {fault : Fault} {index : Int} {f : Failure}
    (h : fault.problem index = .failure f) :
    ∃ message details, f = ⟨.configuration, message, ("rule", .int index) :: details⟩ := by
  cases fault with
  | unwritableField => cases h
  | pattern label source refusal =>
    cases refusal <;> cases h
    exact ⟨_, _, rfl⟩
  | template source refusal =>
    cases refusal <;> cases h
    exact ⟨_, _, rfl⟩
  | _ =>
    cases h
    exact ⟨_, _, rfl⟩

variable [Libraries]

/-- The fields that a rule may have and the values that they may have, if they are there. -/
structure Documented (entries : List (Value × Value)) : Prop where
  known : ∀ e ∈ entries, ∃ name ∈ fieldNames, e.1 = .str name
  exact : ∀ v, Value.field? "match" entries = some v →
    v = .null ∨ IsTextMapping (fun _ => True) v
  patterns : ∀ v, Value.field? "match_re" entries = some v →
    v = .null ∨ IsTextMapping (fun source => ∃ p, Pattern.compile source = .ok p) v
  template : ∀ v, Value.field? "template" entries = some v →
    v = .null ∨ ∃ source, v = .str source ∧ ∃ t, Libraries.compileTemplate source = .ok t
  continues : ∀ v, Value.field? "continue" entries = some v → ∃ b, v = .bool b

theorem exists_mapM_compileEntry_iff {sources : List (String × String)} :
    (∃ patterns, sources.mapM compileEntry = .ok patterns) ↔
      ∀ e ∈ sources, ∃ p, Pattern.compile e.2 = .ok p := by
  refine exists_mapM_eq_ok_iff.trans (forall₂_congr fun e _ => ?_)
  simp only [compileEntry_eq_ok_iff]
  exact ⟨fun ⟨_, p, hc, _⟩ => ⟨p, hc⟩, fun ⟨p, hc⟩ => ⟨_, p, hc, rfl⟩⟩

theorem exists_checkTemplate_iff {v : Value} : (∃ template, checkTemplate v = .ok template) ↔
    v = .null ∨ ∃ source, v = .str source ∧ ∃ t, Libraries.compileTemplate source = .ok t := by
  cases v with
  | str source =>
    rw [checkTemplate]
    cases hc : Libraries.compileTemplate source <;> simp [hc]
  | _ => simp [checkTemplate]

/-- An entry is accepted exactly if its fields are as documented. -/
theorem exists_parse_iff {v : Value} : (∃ rule, parse v = .ok rule) ↔
    ∃ entries, v.entries? = some entries ∧ Documented entries := by
  constructor
  · rintro ⟨rule, h⟩
    obtain ⟨entries, exact, sources, hv, known, he, hs, hp, ht, hc, -⟩ := parse_eq_ok_iff.1 h
    refine ⟨entries, hv, unknownFields_eq_nil_iff.1 known, ?_, ?_, ?_, ?_⟩
    · rw [forall_field?_iff (.inl rfl)]
      exact exists_textEntries_iff.1 ⟨exact, he, by simp⟩
    · rw [forall_field?_iff (.inl rfl)]
      exact exists_textEntries_iff.1 ⟨sources, hs, exists_mapM_compileEntry_iff.1 ⟨_, hp⟩⟩
    · rw [forall_field?_iff (.inl rfl)]
      exact exists_checkTemplate_iff.1 ⟨_, ht⟩
    · exact exists_checkContinue_iff.1 ⟨_, hc⟩
  · rintro ⟨entries, hv, known, exact, patterns, template, continues⟩
    rw [forall_field?_iff (.inl rfl)] at exact patterns template
    obtain ⟨texts, he, -⟩ := exists_textEntries_iff.2 exact
    obtain ⟨sources, hs, usable⟩ := exists_textEntries_iff.2 patterns
    obtain ⟨found, hp⟩ := exists_mapM_compileEntry_iff.2 usable
    obtain ⟨source, ht⟩ := exists_checkTemplate_iff.2 template
    obtain ⟨b, hc⟩ := exists_checkContinue_iff.2 continues
    exact ⟨⟨texts.map fun e => (e.1, some e.2), found, source, b⟩, parse_eq_ok_iff.2
      ⟨entries, texts, sources, hv, unknownFields_eq_nil_iff.2 known, he, hs, hp, ht, hc, rfl⟩⟩

theorem templateOf?_of_checkTemplate {v : Value} {template : Option String}
    (h : checkTemplate v = .ok template) : templateOf? v = template := by
  unfold checkTemplate at h
  split at h
  · cases h
    rfl
  · split at h <;> cases h
    rfl
  · cases h

theorem ofFields_of_parse {v : Value} {rule : Rule} {entries : List (Value × Value)}
    (h : parse v = .ok rule) (hv : v.entries? = some entries) : ofFields entries = .ok rule := by
  obtain ⟨_, exact, sources, hv', -, he, hs, hp, ht, hc, hr⟩ := parse_eq_ok_iff.1 h
  obtain rfl := Option.some.inj (hv.symm.trans hv')
  have exacts : (exact.map fun e => (Value.str e.1, Value.str e.2)).mapM exactOf = .ok rule.exact := by
    rw [hr, mapM_eq_ok_iff, List.forall₂_map_left_iff, List.forall₂_map_right_iff,
      List.forall₂_same]
    exact fun e _ => rfl
  have patterns : (sources.map fun e => (Value.str e.1, Value.str e.2)).mapM patternOf =
      .ok rule.patterns := by
    rw [mapM_eq_ok_iff, List.forall₂_map_left_iff]
    refine (mapM_eq_ok_iff.1 hp).imp fun e found hf => ?_
    obtain ⟨p, compiled, rfl⟩ := compileEntry_eq_ok_iff.1 hf
    rw [patternOf, compiled]
  rw [ofFields, getD_of_checkContinue hc]
  dsimp only
  rw [entriesOf_of_textEntries he, entriesOf_of_textEntries hs, templateOf?_of_checkTemplate ht]
  simp only [bind_eq_ok_iff, pure_eq_ok_iff]
  exact ⟨_, rfl, _, exacts, _, rfl, _, patterns, rfl⟩

/-- A field whose name cannot be written is at fault ahead of everything else. -/
theorem parse_eq_unwritableField_iff {v : Value} : parse v = .error .unwritableField ↔
    ∃ entries, v.entries? = some entries ∧ ∃ e ∈ entries, ¬ e.1.isWritable := by
  constructor
  · intro h
    obtain ⟨-, h⟩ | ⟨entries, hv, h | h | h | ⟨sources, hs, e, he, h⟩ | h | h⟩ := parse_eq_error h
    · cases h
    · obtain ⟨-, h⟩ := checkFields_error h
      split_ifs at h with writable
      exact ⟨entries, hv, by simpa using writable⟩
    · obtain h | ⟨_, h⟩ := textEntries_error h <;> cases h
    · obtain h | ⟨_, h⟩ := textEntries_error h <;> cases h
    · obtain ⟨cause, -, hp⟩ := compileEntry_error h
      cases hp
    · obtain h | ⟨_, _, -, h⟩ := checkTemplate_error h <;> cases h
    · cases checkContinue_error h
  · rintro ⟨entries, hv, e, he, unwritable⟩
    have unknown : unknownFields entries ≠ [] := by
      rw [Ne, unknownFields_eq_nil_iff]
      intro known
      obtain ⟨name, -, hn⟩ := known e he
      rw [hn] at unwritable
      exact unwritable rfl
    have fields : checkFields entries = .error .unwritableField := by
      rw [checkFields, if_neg (mt List.isEmpty_iff.1 unknown), if_neg]
      exact fun all => unwritable (List.all_eq_true.1 all e he)
    rw [parse, hv]
    dsimp only
    rw [fields]
    rfl

/-- Nothing but a refusal that is reported keeps a pattern or the template of an entry from being
compiled. -/
structure CompilesOrReports (v : Value) : Prop where
  patterns : ∀ entries patterns label source a, v.entries? = some entries →
    (field "match_re" entries).entries? = some patterns →
    (.str label, .str source) ∈ patterns → Pattern.compile source ≠ .error (.accident a)
  template : ∀ entries source a, v.entries? = some entries →
    field "template" entries = .str source → Libraries.compileTemplate source ≠ .error (.accident a)

/-- An entry that is refused is blamed by its index; only if a key of it cannot be written, it
is not. -/
theorem mapError_problem_of_refused {v : Value} (index : Int)
    (refused : ¬ ∃ rule, parse v = .ok rule) (reports : CompilesOrReports v) :
    ((∃ entries, v.entries? = some entries ∧ ∃ e ∈ entries, ¬ e.1.isWritable) →
      (parse v).mapError (Fault.problem index) = .error (.accident .value)) ∧
    ((∀ entries, v.entries? = some entries → ∀ e ∈ entries, e.1.isWritable) →
      ∃ message details, (parse v).mapError (Fault.problem index) =
        .error (.failure ⟨.configuration, message, ("rule", .int index) :: details⟩)) := by
  constructor
  · intro unwritable
    rw [parse_eq_unwritableField_iff.2 unwritable]
    rfl
  · intro writable
    cases hv : parse v with
    | ok rule => exact absurd ⟨rule, hv⟩ refused
    | error fault =>
      cases hp : fault.problem index with
      | failure f =>
        obtain ⟨message, details, rfl⟩ := Fault.exists_details hp
        exact ⟨message, details, congrArg Except.error hp⟩
      | accident a =>
        obtain ⟨rfl, -⟩ | ⟨label, source, rfl⟩ | ⟨source, rfl⟩ := Fault.problem_eq_accident_iff.1 hp
        · obtain ⟨entries, he, e, hm, hw⟩ := parse_eq_unwritableField_iff.1 hv
          exact absurd (writable entries he e hm) hw
        · obtain ⟨hc, entries, sources, he, hs, hm⟩ := pattern_of_parse hv
          obtain ⟨-, rfl⟩ | hs := textEntries_eq_ok_iff.1 hs
          · cases hm
          · exact absurd hc (reports.patterns _ _ _ _ _ he hs (List.mem_map.2 ⟨_, hm, rfl⟩))
        · obtain ⟨hc, entries, he, hf⟩ := template_of_parse hv
          exact absurd hc (reports.template _ _ _ he hf)

theorem stopsAt_of_append {before after : List Value} {v : Value} {fault : Fault}
    (accepted : ∀ w ∈ before, ∃ rule, parse w = .ok rule) (h : parse v = .error fault) :
    StopsAt (before ++ v :: after) before.length fault := by
  induction before with
  | nil => exact .here h
  | cons w before ih =>
    obtain ⟨⟨rule, hw⟩, rest⟩ := List.forall_mem_cons.1 accepted
    exact .later hw (ih rest)

end Rule

namespace Config
open Rule

section
variable [Libraries]

/-- Exactly the documented entries are accepted, as the rules that they are. Any other is blamed
by its index, but for keys that cannot be written, and the first of a table stops its document. -/
theorem rules_accepted_iff_documented (v document : Value) (settings : Settings) :
    ((∃ rule, Rule.parse v = .ok rule) ↔
      ∃ entries, v.entries? = some entries ∧ Documented entries) ∧
    (∀ rule entries, Rule.parse v = .ok rule → v.entries? = some entries →
      ofFields entries = .ok rule) ∧
    (∀ index : Int, (¬ ∃ rule, Rule.parse v = .ok rule) → CompilesOrReports v →
      ((∃ entries, v.entries? = some entries ∧ ∃ e ∈ entries, ¬ e.1.isWritable) →
        (Rule.parse v).mapError (Rule.Fault.problem index) = .error (.accident .value)) ∧
      ((∀ entries, v.entries? = some entries → ∀ e ∈ entries, e.1.isWritable) →
        ∃ message details, (Rule.parse v).mapError (Rule.Fault.problem index) =
          .error (.failure ⟨.configuration, message, ("rule", .int index) :: details⟩))) ∧
    ∀ root table layout, Sections document settings root table →
      (formatOf root settings).isWritable →
      parseFormat (formatOf root settings).text = .ok layout →
      ((∃ c, ofValue document settings = .ok c) ↔ ∀ v ∈ table, ∃ rule, Rule.parse v = .ok rule) ∧
      (∀ c, ofValue document settings = .ok c →
        List.Forall₂ (fun v rule => Rule.parse v = .ok rule) table c.rules) ∧
      ∀ before v after problem, table = before ++ v :: after →
        (∀ w ∈ before, ∃ rule, Rule.parse w = .ok rule) →
        (Rule.parse v).mapError (Rule.Fault.problem before.length) = .error problem →
        ofValue document settings = .error problem := by
  refine ⟨exists_parse_iff, fun rule entries h hv => ofFields_of_parse h hv,
    fun index refused reports => mapError_problem_of_refused index refused reports, ?_⟩
  intro root table layout sections writable hl
  obtain ⟨lead, data, eq⟩ := sections.ofValue_eq writable hl
  rw [eq]
  simp only [map_eq_ok_iff, map_eq_error_iff, parseAll_eq_ok_iff]
  refine ⟨?_, ?_, ?_⟩
  · rw [← exists_forall₂_iff]
    constructor
    · rintro ⟨_, rules, h, rfl⟩
      exact ⟨rules, h⟩
    · rintro ⟨rules, h⟩
      exact ⟨_, rules, h, rfl⟩
  · rintro _ ⟨rules, h, rfl⟩
    exact h
  · rintro before v after problem rfl accepted h
    obtain ⟨fault, hv, rfl⟩ := mapError_eq_error_iff.1 h
    exact parseAll_eq_error_iff.2 ⟨_, fault, stopsAt_of_append accepted hv, by rw [Nat.zero_add]⟩

end

def zonedFields : List (Value × Value) :=
  [(.str "match", .map [(.str "job", .str "api")]), (.str "match_re", .map [(.str "zone", .str "^eu")]),
    (.str "template", .str "a.\x7b\x7b labels.job \x7d\x7d"), (.str "continue", .bool true)]

def undecidedFields : List (Value × Value) := [(.str "continue", .null)]

def tableOf (rules : List (List (Value × Value))) : List (Value × Value) :=
  [(.str "write", .map [(.str "rules", .list (rules.map .map))])]

theorem documented_zonedFields : Documented zonedFields where
  known := by simp [zonedFields, fieldNames]
  exact := by
    rintro _ ⟨⟩
    exact .inr ⟨_, rfl, List.forall_mem_singleton.2 ⟨_, _, rfl, trivial⟩⟩
  patterns := by
    have compiles : ∃ p, Pattern.compile "^eu" = .ok p := exists_of_isOk (by decide +kernel)
    rintro _ ⟨⟩
    exact .inr ⟨_, rfl, List.forall_mem_singleton.2 ⟨_, _, rfl, compiles⟩⟩
  template := by
    rintro _ ⟨⟩
    exact .inr ⟨_, rfl, exists_of_isOk (by decide +kernel)⟩
  continues := by
    rintro _ ⟨⟩
    exact ⟨true, rfl⟩

theorem rules_accepted_sample :
    (∃ rule, Rule.parse (.map zonedFields) = .ok rule ∧ ofFields zonedFields = .ok rule) ∧
      ∃ message details, ofValue (.map (tableOf [zonedFields, undecidedFields])) .standard =
        .error (.failure ⟨.configuration, message, ("rule", .int 1) :: details⟩) := by
  obtain ⟨accepts, unchanged, -, -⟩ :=
    rules_accepted_iff_documented (.map zonedFields) .null .standard
  obtain ⟨accepts', -, blames, tables⟩ := rules_accepted_iff_documented (.map undecidedFields)
    (.map (tableOf [zonedFields, undecidedFields])) .standard
  obtain ⟨rule, accepted⟩ := accepts.2 ⟨_, rfl, documented_zonedFields⟩
  have refused : ¬ ∃ rule, Rule.parse (.map undecidedFields) = .ok rule := by
    rw [accepts']
    rintro ⟨_, ⟨⟩, documented⟩
    obtain ⟨_, ⟨⟩⟩ := documented.continues .null rfl
  have reports : CompilesOrReports (.map undecidedFields) :=
    ⟨by rintro _ _ _ _ _ ⟨⟩ ⟨⟩, by rintro _ _ _ ⟨⟩ ⟨⟩⟩
  have writable : ∀ entries, Value.entries? (.map undecidedFields) = some entries →
      ∀ e ∈ entries, e.1.isWritable := by
    rintro _ ⟨⟩
    exact List.forall_mem_singleton.2 rfl
  obtain ⟨message, details, blamed⟩ := (blames 1 refused reports).2 writable
  refine ⟨⟨rule, accepted, unchanged rule zonedFields accepted rfl⟩, message, details, ?_⟩
  refine (tables _ _ .dotted ⟨_, _, _, rfl, rfl, rfl, rfl, rfl⟩ rfl rfl).2.2
    [.map zonedFields] (.map undecidedFields) [] _ rfl ?_ blamed
  exact List.forall_mem_singleton.2 ⟨rule, accepted⟩

def numberedFields (n : Nat) : List (Value × Value) := [(.int (Nat.pow 16 n), .null)]

theorem parse_numberedFields {n : Nat} (h : 3572 ≤ n) :
    Rule.parse (.map (numberedFields n)) = .error .unwritableField := by
  have unwritable : ¬ (Value.int (Nat.pow 16 n)).isWritable :=
    mt (Value.isWritable_powerOfSixteen n).1 (Nat.not_lt.2 h)
  exact parse_eq_unwritableField_iff.2 ⟨_, rfl, _, List.mem_singleton_self _, unwritable⟩

/-- A name that is too long a number to be written keeps its rule from being blamed. -/
theorem accident_of_numberedFields : ¬ Documented (numberedFields 3580) ∧
    (Rule.parse (.map (numberedFields 3580))).mapError (Rule.Fault.problem 0) =
      .error (.accident .value) ∧
    ofValue (.map (tableOf [numberedFields 3580])) .standard = .error (.accident .value) := by
  have refused : Rule.parse (.map (numberedFields 3580)) = .error .unwritableField :=
    parse_numberedFields (by decide)
  refine ⟨fun documented => ?_, by rw [refused]; rfl, ?_⟩
  · obtain ⟨_, _, ⟨⟩⟩ := documented.known _ (List.mem_singleton_self _)
  · have sections : Sections (.map (tableOf [numberedFields 3580])) .standard
        (tableOf [numberedFields 3580]) [.map (numberedFields 3580)] :=
      ⟨_, _, _, rfl, rfl, rfl, rfl, rfl⟩
    have format : parseFormat (formatOf (tableOf [numberedFields 3580]) .standard).text =
      .ok .dotted := rfl
    obtain ⟨lead, data, eq⟩ := sections.ofValue_eq rfl format
    rw [eq, map_eq_error_iff]
    exact parseAll_eq_error_iff.2 ⟨0, _, .here refused, rfl⟩

end Config
end MetricPaths
