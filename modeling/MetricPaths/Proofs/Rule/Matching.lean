import MetricPaths.Proofs.Rule.Acceptance
import MetricPaths.Proofs.Translation

/-! Which metrics a rule is for. An accepted rule asks for nothing but its predicates, as its entry
of the table spells them, and for all of them. A label that a metric lacks satisfies none. -/
namespace MetricPaths

namespace Pattern

/-- Whether a match begins at a place of a text. -/
def MatchesAt (p : Pattern) (text : String) (i : Nat) : Prop :=
  (run text.toList.toArray (bound p.compiled text.toList.toArray) p.compiled i []
    fun _ caps => some caps).isSome

theorem isFoundIn_iff {p : Pattern} {text : String} :
    p.isFoundIn text ↔ ∃ i ≤ text.length, p.MatchesAt text i := by
  simp [isFoundIn, Libraries.isFound, search, MatchesAt, ← String.length_toList]

end Pattern

namespace Rule

theorem holdsExactly_iff {metric : Metric} {label value : String} :
    holdsExactly metric (label, some value) ↔ metric.get? label = some value := by
  rw [holdsExactly, decide_eq_true_iff]

theorem holdsPattern_iff {metric : Metric} {label : String} {p : Pattern} :
    holdsPattern metric (label, p) ↔
      ∃ value, metric.get? label = some value ∧ ∃ i ≤ value.length, p.MatchesAt value i := by
  rw [holdsPattern]
  cases metric.get? label with
  | none => simp
  | some value => simp [Pattern.isFoundIn_iff]

theorem isMatch_iff {rule : Rule} {metric : Metric} : rule.isMatch metric ↔
    (∀ e ∈ rule.exact, holdsExactly metric e) ∧ ∀ e ∈ rule.patterns, holdsPattern metric e := by
  rw [isMatch, Bool.and_eq_true, List.all_eq_true, List.all_eq_true]

def predicates (name : String) (v : Value) : List (Value × Value) :=
  (field name (v.entries?.getD [])).entries?.getD []

def MetExactly (metric : Metric) (e : Value × Value) : Prop :=
  ∃ label value, e = (.str label, .str value) ∧ metric.get? label = some value

def MetSomewhere (metric : Metric) (e : Value × Value) : Prop :=
  ∃ label source p value, e = (.str label, .str source) ∧ Pattern.compile source = .ok p ∧
    metric.get? label = some value ∧ ∃ i ≤ value.length, p.MatchesAt value i

def AllMet (metric : Metric) (v : Value) : Prop :=
  (∀ e ∈ predicates "match" v, MetExactly metric e) ∧
    ∀ e ∈ predicates "match_re" v, MetSomewhere metric e

theorem predicates_of_textEntries {name : String} {v : Value} {entries : List (Value × Value)}
    {texts : List (String × String)} (hv : v.entries? = some entries)
    (h : textEntries name (field name entries) = .ok texts) :
    predicates name v = texts.map fun e => (.str e.1, .str e.2) := by
  rw [predicates, hv, Option.getD_some]
  obtain ⟨nothing, rfl⟩ | there := textEntries_eq_ok_iff.1 h
  · rw [nothing]
    rfl
  · rw [there]
    rfl

theorem forall_exact_iff {exact : List (String × String)} {metric : Metric} :
    (∀ e ∈ exact.map fun e => (e.1, some e.2), holdsExactly metric e) ↔
      ∀ e ∈ exact.map fun e => ((.str e.1, .str e.2) : Value × Value), MetExactly metric e := by
  simp only [List.forall_mem_map, holdsExactly_iff]
  refine forall₂_congr fun e _ => ⟨fun h => ⟨_, _, rfl, h⟩, ?_⟩
  rintro ⟨_, _, ⟨⟩, h⟩
  exact h

theorem forall_patterns_iff {sources : List (String × String)} {patterns : List (String × Pattern)}
    {metric : Metric} (h : sources.mapM compileEntry = .ok patterns) :
    (∀ e ∈ patterns, holdsPattern metric e) ↔
      ∀ e ∈ sources.map fun e => ((.str e.1, .str e.2) : Value × Value), MetSomewhere metric e := by
  rw [List.forall_mem_map]
  have compiled := mapM_eq_ok_iff.1 h
  clear h
  induction compiled with
  | nil => simp
  | @cons source pattern _ _ here _ ih =>
    obtain ⟨p, hc, rfl⟩ := compileEntry_eq_ok_iff.1 here
    rw [List.forall_mem_cons, List.forall_mem_cons, holdsPattern_iff]
    refine and_congr ⟨?_, ?_⟩ ih
    · rintro ⟨value, found, places⟩
      exact ⟨_, _, p, value, rfl, hc, found, places⟩
    · rintro ⟨_, _, p', value, ⟨⟩, hc', found, places⟩
      obtain rfl := Except.ok.inj (hc.symm.trans hc')
      exact ⟨value, found, places⟩

/-- An accepted rule is for the metrics that all of its predicates hold for. -/
theorem isMatch_iff_allMet {v : Value} {rule : Rule} (h : parse v = .ok rule) (metric : Metric) :
    rule.isMatch metric ↔ AllMet metric v := by
  obtain ⟨entries, exact, sources, hv, -, he, hs, hp, -, -, hr⟩ := parse_eq_ok_iff.1 h
  rw [isMatch_iff, AllMet, predicates_of_textEntries hv he, predicates_of_textEntries hv hs, hr,
    forall_exact_iff, forall_patterns_iff hp]

theorem pairwise_lt_matching (metric : Metric) (rules : List Rule) :
    (matching metric rules).Pairwise (· < ·) := by
  have indexes : (rules.zipIdx.map (·.2)).Pairwise (· < ·) := by
    rw [List.zipIdx_map_snd]
    exact List.pairwise_lt_range'
  exact indexes.sublist (List.filter_sublist.map _)

theorem mem_matching {metric : Metric} {rules : List Rule} {index : Nat} :
    index ∈ matching metric rules ↔ ∃ rule, rules[index]? = some rule ∧ rule.isMatch metric := by
  rw [← matched_indexes, List.mem_map]
  constructor
  · rintro ⟨⟨rule, i⟩, h, rfl⟩
    exact ⟨rule, mem_matched.1 h⟩
  · rintro ⟨rule, h⟩
    exact ⟨(rule, index), mem_matched.2 h, rfl⟩

theorem filterMap_matching (metric : Metric) (rules : List Rule) :
    (matching metric rules).filterMap (rules[·]?) = rules.filter (·.isMatch metric) := by
  have here : ∀ e ∈ matched metric rules, rules[e.2]? = some e.1 := fun e he => (mem_matched.1 he).1
  calc (matching metric rules).filterMap (rules[·]?)
    _ = (matched metric rules).filterMap fun e => rules[e.2]? := by
      rw [← matched_indexes, List.filterMap_map]
      rfl
    _ = (matched metric rules).map (·.1) := by
      rw [List.filterMap_congr here, ← List.filterMap_eq_map]
      rfl
    _ = (rules.zipIdx.map (·.1)).filter (·.isMatch metric) := by
      rw [matched, List.filter_map]
      rfl
    _ = rules.filter (·.isMatch metric) := by rw [List.zipIdx_map_fst]

theorem exists_getElem?_iff {p : Rule → Prop} {q : Value → Prop} {table : List Value}
    {rules : List Rule} (h : List.Forall₂ (fun v rule => p rule ↔ q v) table rules) (index : Nat) :
    (∃ rule, rules[index]? = some rule ∧ p rule) ↔ ∃ v, table[index]? = some v ∧ q v := by
  induction h generalizing index with
  | nil => simp
  | cons here _ ih =>
    cases index with
    | zero => simpa using here
    | succ index => simpa using ih index

/-- An accepted rule is for a metric exactly if the metric has what all of its predicates ask for.
Their order does not matter, and more of them leave no other metrics. The rules of a table that are
for a metric come out in the order of the table, each once, and no others. -/
theorem isMatch_conjunction {v : Value} {rule : Rule} (h : parse v = .ok rule) :
    (∀ metric, rule.isMatch metric ↔
      (∀ e ∈ predicates "match" v, ∃ label value, e = (.str label, .str value) ∧
        metric.get? label = some value) ∧
      ∀ e ∈ predicates "match_re" v, ∃ label source p value, e = (.str label, .str source) ∧
        Pattern.compile source = .ok p ∧ metric.get? label = some value ∧
        ∃ i ≤ value.length, p.MatchesAt value i) ∧
    (∀ v' rule', parse v' = .ok rule' → (predicates "match" v).Perm (predicates "match" v') →
      (predicates "match_re" v).Perm (predicates "match_re" v') →
      ∀ metric, rule.isMatch metric = rule'.isMatch metric) ∧
    (∀ v' rule', parse v' = .ok rule' → predicates "match" v ⊆ predicates "match" v' →
      predicates "match_re" v ⊆ predicates "match_re" v' →
      ∀ metric, rule'.isMatch metric → rule.isMatch metric) ∧
    ∀ table rules, parseAll 0 table = .ok rules → ∀ metric,
      (matching metric rules).Pairwise (· < ·) ∧
      (∀ i, i ∈ matching metric rules ↔ ∃ w, table[i]? = some w ∧ AllMet metric w) ∧
      (matching metric rules).filterMap (rules[·]?) = rules.filter (·.isMatch metric) := by
  refine ⟨isMatch_iff_allMet h, ?_, ?_, ?_⟩
  · intro v' rule' h' exact patterns metric
    rw [Bool.eq_iff_iff, isMatch_iff_allMet h, isMatch_iff_allMet h', AllMet, AllMet]
    simp only [exact.mem_iff, patterns.mem_iff]
  · intro v' rule' h' exact patterns metric matched
    obtain ⟨allExact, allPatterns⟩ := (isMatch_iff_allMet h' metric).1 matched
    exact (isMatch_iff_allMet h metric).2
      ⟨fun e he => allExact e (exact he), fun e he => allPatterns e (patterns he)⟩
  · intro table rules accepted metric
    have each : List.Forall₂ (fun w rule => rule.isMatch metric ↔ AllMet metric w) table rules :=
      (parseAll_eq_ok_iff.1 accepted).imp fun _ _ hw => isMatch_iff_allMet hw metric
    exact ⟨pairwise_lt_matching metric rules,
      fun i => mem_matching.trans (exists_getElem?_iff each i), filterMap_matching metric rules⟩

def jobIn (zone : List (String × String)) : Metric :=
  .ofList ([(nameLabel, "up"), ("job", "api")] ++ zone)

theorem isMatch_zoned_sample : ∃ rule, parse (.map Config.zonedFields) = .ok rule ∧
    rule.isMatch (jobIn [("zone", "eu-west")]) = true ∧ rule.isMatch (jobIn []) = false := by
  obtain ⟨rule, h⟩ : ∃ rule, parse (.map Config.zonedFields) = .ok rule :=
    exists_parse_iff.2 ⟨_, rfl, Config.documented_zonedFields⟩
  obtain ⟨p, compiled⟩ : ∃ p, Pattern.compile "^eu" = .ok p := exists_of_isOk (by decide +kernel)
  have found : p.isFoundIn "eu-west" := by
    have : (Pattern.compile "^eu").toOption.any (·.isFoundIn "eu-west") = true := by decide +kernel
    simpa [compiled, Except.toOption] using this
  obtain ⟨all, -⟩ := isMatch_conjunction h
  refine ⟨rule, h, (all _).2 ⟨?_, ?_⟩, Bool.eq_false_iff.2 fun matched => ?_⟩
  · exact List.forall_mem_singleton.2 ⟨"job", "api", rfl, by decide⟩
  · exact List.forall_mem_singleton.2
      ⟨"zone", "^eu", p, "eu-west", rfl, compiled, by decide, Pattern.isFoundIn_iff.1 found⟩
  · obtain ⟨_, _, _, _, ⟨⟩, -, zoned, -⟩ := ((all _).1 matched).2 _ (List.mem_singleton_self _)
    have absent : (jobIn []).get? "zone" = none := by decide
    cases absent.symm.trans zoned

end Rule
end MetricPaths
