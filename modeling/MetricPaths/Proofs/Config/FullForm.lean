import MetricPaths.Proofs.Rule.Matching
import MetricPaths.Proofs.Session

/-! Documents written out in full. A configuration is written out as the document that it was made
from, with everything in its place that the document leaves open. Nothing of the document is lost,
and one that leaves nothing open comes back as it was. -/
namespace MetricPaths

namespace Value

/-- Entries under texts of which none occurs twice. -/
structure Keyed (entries : List (Value × Value)) : Prop where
  texts : ∀ e ∈ entries, ∃ name, e.1 = .str name
  distinct : (entries.map Prod.fst).Nodup

theorem field?_eq_some_iff {entries : List (Value × Value)} (keyed : Keyed entries) {name : String}
    {v : Value} : field? name entries = some v ↔ (.str name, v) ∈ entries := by
  obtain ⟨texts, distinct⟩ := keyed
  induction entries with
  | nil => simp
  | cons e rest ih =>
    obtain ⟨key, w⟩ := e
    obtain ⟨here, others⟩ := List.forall_mem_cons.1 texts
    rw [List.map_cons, List.nodup_cons] at distinct
    obtain ⟨text, rfl⟩ : ∃ text, key = .str text := here
    rw [field?_cons, List.mem_cons, Prod.mk.injEq, Value.str.injEq]
    by_cases h : text = name
    · subst h
      have absent : (.str text, v) ∉ rest := fun hm => distinct.1 (List.mem_map.2 ⟨_, hm, rfl⟩)
      simp [absent, eq_comm]
    · rw [if_neg h, ih others distinct.2]
      simp [Ne.symm h]

theorem field?_perm {entries others : List (Value × Value)} (h : entries.Perm others)
    (keyed : Keyed others) (name : String) : field? name entries = field? name others := by
  have keyed' : Keyed entries :=
    ⟨fun e he => keyed.texts e (h.mem_iff.1 he), (h.map _).nodup_iff.2 keyed.distinct⟩
  apply Option.ext
  intro v
  rw [field?_eq_some_iff keyed', field?_eq_some_iff keyed, h.mem_iff]

/-- Values that differ at most in the order of the entries of their mappings. -/
inductive Reordered : Value → Value → Prop
  | refl (v : Value) : Reordered v v
  | trans {u v w : Value} : Reordered u v → Reordered v w → Reordered u w
  | entries {es fs : List (Value × Value)} : es.Perm fs → Reordered (.map es) (.map fs)
  | value {before after : List (Value × Value)} {k v w : Value} :
      Reordered v w → Reordered (.map (before ++ (k, v) :: after)) (.map (before ++ (k, w) :: after))
  | item {before after : List Value} {v w : Value} :
      Reordered v w → Reordered (.list (before ++ v :: after)) (.list (before ++ w :: after))

theorem Reordered.list {items : List Value} {f : Value → Value}
    (h : ∀ v ∈ items, Reordered (f v) v) (before : List Value) :
    Reordered (.list (before ++ items.map f)) (.list (before ++ items)) := by
  induction items generalizing before with
  | nil => exact .refl _
  | cons v rest ih =>
    obtain ⟨here, others⟩ := List.forall_mem_cons.1 h
    have first : Reordered (.list (before ++ f v :: rest.map f)) (.list (before ++ v :: rest.map f)) :=
      .item here
    have behind := ih others (before ++ [v])
    rw [List.append_assoc, List.append_assoc] at behind
    exact first.trans behind

end Value

namespace Rule

/-- An entry of a rule table with nothing left out: predicates that are not there are none, an empty
template is null, and later rules are not asked where nothing is said. -/
def fullForm (v : Value) : Value :=
  let fields := v.entries?.getD []
  .map [
    (.str "match", .map (predicates "match" v)),
    (.str "match_re", .map (predicates "match_re" v)),
    (.str "template", .ofText? (templateOf? (field "template" fields))),
    (.str "continue", (Value.field? "continue" fields).getD (.bool false))]

theorem sources_of_mapM_compileEntry [Libraries] {sources : List (String × String)}
    {patterns : List (String × Pattern)} (h : sources.mapM compileEntry = .ok patterns) :
    patterns.map (fun e => (e.1, e.2.source)) = sources := by
  have compiled := mapM_eq_ok_iff.1 h
  clear h
  induction compiled with
  | nil => rfl
  | @cons e found _ _ here _ ih =>
    obtain ⟨p, hc, rfl⟩ := compileEntry_eq_ok_iff.1 here
    rw [List.map_cons, ih, Pattern.source_of_compile hc]

theorem toValue_of_parse [Libraries] {v : Value} {rule : Rule} (h : parse v = .ok rule) :
    rule.toValue = fullForm v := by
  obtain ⟨fields, exact, sources, hv, -, he, hs, hp, ht, hc, hr⟩ := parse_eq_ok_iff.1 h
  rw [toValue, fullForm, predicates_of_textEntries hv he, predicates_of_textEntries hv hs, hr, hv,
    Option.getD_some, templateOf?_of_checkTemplate ht, getD_of_checkContinue hc,
    ← sources_of_mapM_compileEntry hp, List.map_map, List.map_map]
  rfl

inductive IsFull : Value → Prop
  | fields {fields exact patterns : List (Value × Value)} {template : Option String}
      {continues : Bool} : template ≠ some "" →
      fields.Perm [(.str "match", .map exact), (.str "match_re", .map patterns),
        (.str "template", .ofText? template), (.str "continue", .bool continues)] →
      IsFull (.map fields)

theorem IsFull.reordered {v : Value} (h : IsFull v) : (fullForm v).Reordered v := by
  obtain @⟨fields, exact, patterns, template, continues, hn, perm⟩ := h
  have keyed : Value.Keyed [(.str "match", .map exact), (.str "match_re", .map patterns),
      (.str "template", .ofText? template), (.str "continue", .bool continues)] :=
    ⟨by simp, by simp⟩
  have found := Value.field?_perm perm keyed
  have full : fullForm (.map fields) = .map [(.str "match", .map exact),
      (.str "match_re", .map patterns), (.str "template", .ofText? template),
      (.str "continue", .bool continues)] := by
    have text : templateOf? (.ofText? template) = template := by
      cases template with
      | none => rfl
      | some s =>
        have there : s ≠ "" := fun empty => hn (congrArg some empty)
        exact if_neg there
    simp [fullForm, predicates, field, Value.entries?, found, text]
  rw [full]
  exact .entries perm.symm

end Rule

namespace Config

def itemsOf : Value → List Value
  | .list items => items
  | _ => []

theorem eq_of_listOr {message : String} {v : Value} {items : List Value}
    (h : listOr message v = .ok items) : items = itemsOf v := by
  unfold listOr at h
  split_ifs at h with falsy
  · cases h
    cases v with
    | list items => exact (List.isEmpty_iff.1 falsy).symm
    | _ => rfl
  · split at h <;> cases h
    rfl

theorem eq_of_textOr {message : String} {v : Value} {s : String} (h : textOr message v = .ok s) :
    v = .str s := by
  unfold textOr at h
  split at h <;> cases h
  rfl

theorem eq_of_writtenText {v : Value} {s : String} (h : writtenText v = .ok s) : s = v.text := by
  rw [writtenText] at h
  split_ifs at h
  cases h
  rfl

theorem name_of_parseFormat {name : String} {layout : Layout} (h : parseFormat name = .ok layout) :
    layout.name = name := by
  rw [parseFormat] at h
  split at h
  · next found =>
    cases h
    simpa using List.find?_some found
  · cases h

/-- A document with nothing left out: lead and format are those of the settings where it says
nothing of them, and data and rules are none. -/
def fullForm (document : Value) (settings : Settings) : Value :=
  let root := document.entries?.getD []
  let write := (Rule.field "write" root).entries?.getD []
  .map [
    (.str "prefix", (Value.field? "prefix" root).getD (.str settings.lead)),
    (.str "format", .str ((Value.field? "format" root).getD (.str settings.format)).text),
    (.str "write", .map [
      (.str "template_data", .map ((dataOf document).entries?.getD [])),
      (.str "rules", .list ((itemsOf (Rule.field "rules" write)).map Rule.fullForm))])]

/-- A configuration is written out as its document in full exactly if the document's data have no
read-only parts, which would be written out as lists and mappings. -/
theorem toValue_eq_fullForm_iff [Libraries] {document : Value} {settings : Settings} {c : Config}
    (h : ofValue document settings = .ok c) : c.toValue = fullForm document settings ↔
      Value.entriesArePlain ((dataOf document).entries?.getD []) := by
  obtain ⟨root, write, data, table, format, hroot, hwrite, hdata, htable, hlead, hformat, hlayout,
    hrules, hfrozen⟩ := ofValue_eq_ok_iff.1 h
  obtain rfl := eq_of_mappingOr hroot
  obtain rfl := eq_of_mappingOr hwrite
  obtain rfl := eq_of_mappingOr hdata
  obtain rfl := eq_of_listOr htable
  have rules : c.rules.map Rule.toValue = (itemsOf (Rule.field "rules"
      ((Rule.field "write" (document.entries?.getD [])).entries?.getD []))).map Rule.fullForm := by
    rw [← List.forall₂_eq_eq_eq, List.forall₂_map_left_iff, List.forall₂_map_right_iff]
    exact (Rule.parseAll_eq_ok_iff.1 hrules).flip.imp fun _ _ hv => Rule.toValue_of_parse hv
  have thawed : c.data.thaw =
      .map (Value.thawEntries (Value.freezeEntries ((dataOf document).entries?.getD []))) := by
    rw [hfrozen, Value.freeze, Value.thaw]
    rfl
  rw [toValue, fullForm, eq_of_textOr hlead, name_of_parseFormat hlayout, eq_of_writtenText hformat,
    rules, thawed, ← Value.thawEntries_freezeEntries_iff]
  simp

inductive IsFull : Value → Prop
  | sections {lead format : String} {data root write : List (Value × Value)} {rules : List Value} :
      root.Perm [(.str "prefix", .str lead), (.str "format", .str format),
        (.str "write", .map write)] →
      write.Perm [(.str "template_data", .map data), (.str "rules", .list rules)] →
      (∀ rule ∈ rules, Rule.IsFull rule) → IsFull (.map root)

theorem IsFull.reordered {document : Value} (h : IsFull document) (settings : Settings) :
    (fullForm document settings).Reordered document := by
  obtain @⟨lead, format, data, root, write, rules, hroot, hwrite, hrules⟩ := h
  have atRoot := Value.field?_perm hroot ⟨by simp, by simp⟩
  have atWrite := Value.field?_perm hwrite ⟨by simp, by simp⟩
  have full : fullForm (.map root) settings = .map [(.str "prefix", .str lead),
      (.str "format", .str format), (.str "write", .map [(.str "template_data", .map data),
        (.str "rules", .list (rules.map Rule.fullForm))])] := by
    simp [fullForm, dataOf, itemsOf, Rule.field, Value.entries?, Value.text, atRoot, atWrite]
  have each : Value.Reordered (.list (rules.map Rule.fullForm)) (.list rules) :=
    .list (fun rule hr => (hrules rule hr).reordered) []
  have section' : Value.Reordered (.map [(.str "template_data", .map data),
      (.str "rules", .list (rules.map Rule.fullForm))]) (.map write) := by
    refine .trans ?_ (.entries hwrite.symm)
    exact @Value.Reordered.value [_] [] _ _ _ each
  rw [full]
  refine .trans ?_ (.entries hroot.symm)
  exact @Value.Reordered.value [_, _] [] _ _ _ section'

/-- A configuration loses nothing of its document, whatever the settings are: it is written out as
the document with nothing left out, if the data are mappings, lists and what is neither, for these
come back from their frozen form. A document that leaves nothing out comes back but for the order of
its fields. -/
theorem toValue_loses_nothing [Libraries] {document : Value} {settings : Settings} {c : Config}
    (h : ofValue document settings = .ok c) :
    (c.toValue = fullForm document settings ↔
      Value.entriesArePlain ((dataOf document).entries?.getD []) = true) ∧
    (∀ v : Value, v.freeze.thaw = v ↔ v.isPlain = true) ∧
    (IsFull document → Value.entriesArePlain ((dataOf document).entries?.getD []) = true →
      c.toValue.Reordered document) := by
  refine ⟨toValue_eq_fullForm_iff h, Value.thaw_freeze_iff, fun full plain => ?_⟩
  rw [(toValue_eq_fullForm_iff h).2 plain]
  exact full.reordered settings

def reversedFields : List (Value × Value) :=
  [(.str "continue", .bool true), (.str "template", .null),
    (.str "match_re", .map [(.str "zone", .str "^eu")]), (.str "match", .map [])]

def reversedDocument : Value :=
  .map [
    (.str "write", .map [
      (.str "rules", .list [.map reversedFields]),
      (.str "template_data", .map [(.int 1, .list [.str "a", .map [(.null, .list [])]])])]),
    (.str "format", .str "carbon-tags"), (.str "prefix", .str "p.")]

theorem isFull_reversedDocument : IsFull reversedDocument := by
  have fields : reversedFields.Perm [(.str "match", .map []),
      (.str "match_re", .map [(.str "zone", .str "^eu")]), (.str "template", .ofText? none),
      (.str "continue", .bool true)] := (List.reverse_perm reversedFields).symm
  refine .sections (List.reverse_perm [_, _, _]) (List.reverse_perm [_, _]) ?_
  exact List.forall_mem_singleton.2 (.fields (by simp) fields)

theorem toValue_reversed_sample : ∃ c, ofValue reversedDocument .standard = .ok c ∧
    Value.entriesArePlain ((dataOf reversedDocument).entries?.getD []) = true ∧
    c.toValue = fullForm reversedDocument .standard ∧ c.toValue.Reordered reversedDocument := by
  obtain ⟨c, h⟩ : ∃ c, ofValue reversedDocument .standard = .ok c :=
    exists_of_isOk (by decide +kernel)
  have plain : Value.entriesArePlain ((dataOf reversedDocument).entries?.getD []) = true := by decide
  obtain ⟨full, -, again⟩ := toValue_loses_nothing h
  exact ⟨c, h, plain, full.2 plain, again isFull_reversedDocument plain⟩

end Config
end MetricPaths
