import MetricPaths.Rule
import MetricPaths.Proofs.Except
import MetricPaths.Proofs.Metric

/-! Rules that have been checked. The checks settle all that a rule's templates and
predicates could still be at fault for, and a rule that has passed them once passes
them again in the form in which it is written out. -/
namespace MetricPaths
namespace Rule

theorem unknownFields_eq_nil_iff {entries : List (Value × Value)} :
    unknownFields entries = [] ↔ ∀ e ∈ entries, ∃ name ∈ fieldNames, e.1 = .str name := by
  have sorted (names : List String) : Metric.sortNames names = [] ↔ names = [] := by
    rw [← List.perm_nil, ← List.perm_nil, (Metric.sortNames_perm names).congr_left]
  rw [unknownFields, sorted, List.map_eq_nil_iff, List.filter_eq_nil_iff]
  refine forall₂_congr fun e _ => ?_
  obtain ⟨key, v⟩ := e
  cases key <;> simp

theorem checkFields_eq_ok_iff {entries : List (Value × Value)} {u : Unit} :
    checkFields entries = .ok u ↔ unknownFields entries = [] := by
  rw [← List.isEmpty_iff, checkFields]
  split_ifs with h <;> simp [h]

theorem textEntries_map (field : String) (entries : List (String × String)) :
    textEntries field (.map (entries.map fun e => (.str e.1, .str e.2))) = .ok entries := by
  rw [textEntries]
  · simp only [Value.entries?, mapM_eq_ok_iff, List.forall₂_map_left_iff, List.forall₂_same]
    exact fun e _ => rfl
  · rintro ⟨⟩

variable [Libraries]

/-- What the checks settle: no exact predicate is without a value, and a template is
there only if it has a text that can be read. -/
structure Checked (rule : Rule) : Prop where
  expected : ∀ e ∈ rule.exact, e.2.isSome
  readable : ∀ source, rule.template = some source →
    source ≠ "" ∧ ∃ template, Libraries.compileTemplate source = .ok template

theorem parse_eq_ok_iff {v : Value} {rule : Rule} :
    parse v = .ok rule ↔ ∃ entries exact sources, v.entries? = some entries ∧
      unknownFields entries = [] ∧
      textEntries "match" (field "match" entries) = .ok exact ∧
      textEntries "match_re" (field "match_re" entries) = .ok sources ∧
      sources.mapM compileEntry = .ok rule.patterns ∧
      checkTemplate (field "template" entries) = .ok rule.template ∧
      checkContinue (Value.field? "continue" entries) = .ok rule.continues ∧
      rule.exact = exact.map fun e => (e.1, some e.2) := by
  obtain ⟨exact, patterns, template, continues⟩ := rule
  rw [parse]
  cases hv : v.entries? with
  | none => simp
  | some entries =>
    simp only [bind_eq_ok_iff, pure_eq_ok_iff, checkFields_eq_ok_iff, Rule.mk.injEq]
    constructor
    · rintro ⟨_, hu, exact, he, sources, hs, _, hp, _, ht, _, hc, rfl, rfl, rfl, rfl⟩
      exact ⟨entries, exact, sources, rfl, hu, he, hs, hp, ht, hc, rfl⟩
    · rintro ⟨_, exact, sources, hentries, hu, he, hs, hp, ht, hc, rfl⟩
      cases hentries
      exact ⟨(), hu, exact, he, sources, hs, _, hp, _, ht, _, hc, rfl, rfl, rfl, rfl⟩

theorem readable_of_checkTemplate {v : Value} {template : Option String} {source : String}
    (h : checkTemplate v = .ok template) (hs : template = some source) :
    source ≠ "" ∧ ∃ t, Libraries.compileTemplate source = .ok t := by
  subst hs
  unfold checkTemplate at h
  split at h
  · cases h
  · next s =>
    split at h
    · next t ht =>
      rw [templateOf?, Except.ok.injEq] at h
      split_ifs at h with hn
      cases h
      exact ⟨hn, t, ht⟩
    · cases h
  · cases h

theorem Checked.of_parse {v : Value} {rule : Rule} (h : parse v = .ok rule) : rule.Checked := by
  obtain ⟨_, exact, _, -, -, -, -, -, ht, -, he⟩ := parse_eq_ok_iff.1 h
  refine ⟨fun e hm => ?_, fun source hs => readable_of_checkTemplate ht hs⟩
  rw [he] at hm
  obtain ⟨_, -, rfl⟩ := List.mem_map.1 hm
  rfl

theorem parseAll_eq_ok_iff {index : Nat} {table : List Value} {rules : List Rule} :
    parseAll index table = .ok rules ↔ List.Forall₂ (fun v rule => parse v = .ok rule) table rules := by
  induction table generalizing index rules with
  | nil => simp [parseAll, eq_comm]
  | cons v rest ih =>
    rw [List.forall₂_cons_left_iff, parseAll]
    cases hv : parse v with
    | error fault => simp
    | ok rule =>
      simp only [map_eq_ok_iff, ih]
      constructor
      · rintro ⟨rest, hrest, rfl⟩
        exact ⟨rule, rest, rfl, hrest, rfl⟩
      · rintro ⟨_, rest, hrule, hrest, rfl⟩
        cases hrule
        exact ⟨rest, hrest, rfl⟩

theorem Checked.of_parseAll {index : Nat} {table : List Value} {rules : List Rule}
    (h : parseAll index table = .ok rules) : ∀ rule ∈ rules, rule.Checked := by
  have related := parseAll_eq_ok_iff.1 h
  clear h
  induction related with
  | nil => simp
  | cons hv _ ih => exact List.forall_mem_cons.2 ⟨.of_parse hv, ih⟩

theorem compileEntry_eq_ok_iff {e : String × String} {found : String × Pattern} :
    compileEntry e = .ok found ↔ ∃ p, Pattern.compile e.2 = .ok p ∧ found = (e.1, p) := by
  rw [compileEntry]
  cases Pattern.compile e.2 with
  | error fault => simp
  | ok p => simp [eq_comm]

theorem mapM_compileEntry (patterns : List (String × Pattern)) :
    (patterns.map fun e => (e.1, e.2.source)).mapM compileEntry = .ok patterns := by
  simp only [mapM_eq_ok_iff, List.forall₂_map_left_iff, List.forall₂_same]
  intro e _
  rw [compileEntry, Pattern.compile_source]

theorem Checked.exists_exact {rule : Rule} (h : rule.Checked) :
    ∃ exact : List (String × String), rule.exact = exact.map fun e => (e.1, some e.2) := by
  refine ⟨rule.exact.map fun e => (e.1, e.2.getD ""), ?_⟩
  rw [List.map_map]
  refine (List.map_id _).symm.trans (List.map_congr_left fun e he => ?_)
  obtain ⟨value, hv⟩ := Option.isSome_iff_exists.1 (h.expected e he)
  exact Prod.ext rfl (by simp [hv])

/-- A checked rule is accepted again, and is the same rule. -/
theorem Checked.parse_toValue {rule : Rule} (h : rule.Checked) : parse rule.toValue = .ok rule := by
  obtain ⟨exact, he⟩ := h.exists_exact
  have known : unknownFields (rule.toValue.entries?.getD []) = [] := by
    rw [unknownFields_eq_nil_iff]
    simp [toValue, Value.entries?, fieldNames]
  have template : checkTemplate (.ofText? rule.template) = .ok rule.template := by
    cases ht : rule.template with
    | none => rfl
    | some source =>
      obtain ⟨hn, t, hc⟩ := h.readable source ht
      simp [Value.ofText?, checkTemplate, hc, templateOf?, hn]
  rw [parse_eq_ok_iff]
  refine ⟨_, exact, rule.patterns.map fun e => (e.1, e.2.source), rfl, known, ?_, ?_,
    mapM_compileEntry _, ?_, ?_, he⟩
  · simpa [field, he, Value.ofText?, Function.comp_def] using textEntries_map "match" exact
  · simpa [field, Function.comp_def] using
      textEntries_map "match_re" (rule.patterns.map fun e => (e.1, e.2.source))
  · simpa [field] using template
  · simp [checkContinue]

theorem parseAll_toValue {rules : List Rule} (h : ∀ rule ∈ rules, rule.Checked) (index : Nat) :
    parseAll index (rules.map toValue) = .ok rules := by
  rw [parseAll_eq_ok_iff, List.forall₂_map_left_iff, List.forall₂_same]
  exact fun rule hm => (h rule hm).parse_toValue

end Rule
end MetricPaths
