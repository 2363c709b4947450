import MetricPaths.Libraries.Own
import MetricPaths.Translation
import MetricPaths.Proofs.Except
import MetricPaths.Proofs.Metric

/-! What the rule table decides. Only the matching rules up to the first that does not
continue are asked; their templates are rendered in the order of the table, and the
default path follows unless one of them ends it. -/
namespace MetricPaths
open Libraries (Shared)

section
variable [Libraries]

namespace Template

theorem renderText_eq_error_iff {source : String} {metric : Metric} {shared left : Libraries.Shared}
    {problem : Problem} :
    renderText source metric shared = (.error problem, left) ↔
      (∃ refusal, Libraries.compileTemplate source = .error refusal ∧
        refused source refusal = problem ∧ shared = left) ∨
      ∃ template fault, Libraries.compileTemplate source = .ok template ∧
        Libraries.render template metric shared = (.error fault, left) ∧
        fault.problem source = problem := by
  unfold renderText
  cases hc : Libraries.compileTemplate source with
  | error refusal => simp
  | ok template =>
    rcases hr : Libraries.render template metric shared with ⟨fault | text, middle⟩
    · simp [hr, and_assoc, and_comm]
    · simp [hr]

theorem renderText_left {source : String} {metric : Metric} {shared : Libraries.Shared}
    (h : ∀ template, Libraries.compileTemplate source = .ok template →
      (Libraries.render template metric shared).2 = shared) :
    (renderText source metric shared).2 = shared := by
  rw [renderText]
  cases hc : Libraries.compileTemplate source with
  | error refusal => rfl
  | ok template =>
    have left := h template hc
    dsimp only
    split <;> simpa [*] using left

/-- An accident with a template: it is refused in one, or it stops at a fault that has no text. -/
def Mishap (source : String) (metric : Metric) (shared left : Libraries.Shared) (a : Accident) : Prop :=
  Libraries.compileTemplate source = .error (.accident a) ∨
    ∃ template, Libraries.compileTemplate source = .ok template ∧
      Libraries.render template metric shared = (.error (.mute a), left)

/-- A template that gives no text is blamed by its own text alone, unless it meets an accident. -/
theorem renderText_error {source : String} {metric : Metric} {shared left : Libraries.Shared}
    {problem : Problem} (h : renderText source metric shared = (.error problem, left)) :
    (∃ message, problem = .failure ⟨.template, message, [("template", .str source)]⟩) ∨
      ∃ a, problem = .accident a ∧ Mishap source metric shared left a := by
  rcases renderText_eq_error_iff.1 h with ⟨refusal, hc, rfl, rfl⟩ | ⟨template, fault, hc, hr, rfl⟩
  · cases refusal with
    | reported => exact Or.inl ⟨_, rfl⟩
    | accident a => exact Or.inr ⟨a, rfl, Or.inl hc⟩
  · cases fault with
    | told text => exact Or.inl ⟨_, rfl⟩
    | untold => exact Or.inl ⟨_, rfl⟩
    | mute a => exact Or.inr ⟨a, rfl, Or.inr ⟨template, hc, hr⟩⟩

end Template

namespace Rule

def matched (metric : Metric) (rules : List Rule) : List (Rule × Nat) :=
  rules.zipIdx.filter fun e => e.1.isMatch metric

theorem matched_indexes (metric : Metric) (rules : List Rule) :
    (matched metric rules).map (·.2) = matching metric rules := rfl

theorem mem_matched {metric : Metric} {rules : List Rule} {rule : Rule} {index : Nat} :
    (rule, index) ∈ matched metric rules ↔ rules[index]? = some rule ∧ rule.isMatch metric := by
  rw [matched, List.mem_filter, List.mk_mem_zipIdx_iff_getElem?]

/-- A list of rules up to the first that does not continue. -/
def upToLast (rules : List (Rule × Nat)) : List (Rule × Nat) :=
  rules.takeWhile (·.1.continues) ++ (rules.dropWhile (·.1.continues)).take 1

theorem upToLast_cons_of_continues {e : Rule × Nat} (rest : List (Rule × Nat))
    (h : e.1.continues = true) : upToLast (e :: rest) = e :: upToLast rest := by
  simp [upToLast, h]

theorem upToLast_cons_of_ends {e : Rule × Nat} (rest : List (Rule × Nat))
    (h : e.1.continues = false) : upToLast (e :: rest) = [e] := by
  simp [upToLast, h]

theorem upToLast_subset (rules : List (Rule × Nat)) : upToLast rules ⊆ rules := by
  intro e he
  rcases List.mem_append.1 he with he | he
  · exact (List.takeWhile_sublist _).subset he
  · exact (List.dropWhile_sublist _).subset ((List.take_sublist _ _).subset he)

theorem source?_eq_some_iff {rule : Rule} {source : String} :
    rule.source? = some source ↔ rule.template = some source ∧ source ≠ "" := by
  simp [source?, Option.filter_eq_some_iff]

def sources (rules : List (Rule × Nat)) : List (Nat × String) :=
  rules.filterMap fun e => e.1.source?.map (e.2, ·)

theorem mem_sources {rules : List (Rule × Nat)} {index : Nat} {source : String} :
    (index, source) ∈ sources rules ↔
      ∃ rule, (rule, index) ∈ rules ∧ rule.source? = some source := by
  simp [sources]

theorem paths_of_source?_eq_none {rule : Rule} (metric : Metric) (shared : Shared)
    (h : rule.source? = none) : rule.paths metric shared = (.ok [], shared) := by
  rw [paths, h]

theorem paths_of_renderText {rule : Rule} {source path : String} {metric : Metric}
    {shared left : Shared} (hs : rule.source? = some source)
    (hr : Template.renderText source metric shared = (.ok path, left)) :
    rule.paths metric shared = (.ok [path], left) := by
  simp only [paths, hs, hr]

theorem paths_of_renderText_error {rule : Rule} {source : String} {problem : Problem}
    {metric : Metric} {shared left : Shared} (hs : rule.source? = some source)
    (hr : Template.renderText source metric shared = (.error problem, left)) :
    rule.paths metric shared = (.error problem, left) := by
  simp only [paths, hs, hr]

end Rule

namespace Translator
open Rule

/-- Templates that are rendered one after the other, each with the shared data as the
one before it left them. -/
inductive Renders (metric : Metric) : Shared → List (Nat × String) → List String → Shared → Prop
  | nil {shared : Shared} : Renders metric shared [] [] shared
  | cons {shared middle left : Shared} {index : Nat} {source path : String}
      {rest : List (Nat × String)} {found : List String} :
      Template.renderText source metric shared = (.ok path, middle) →
      Renders metric middle rest found left →
      Renders metric shared ((index, source) :: rest) (path :: found) left

/-- Templates of which the first that cannot be rendered is that of the rule at an index. -/
inductive StopsAt (metric : Metric) (index : Nat) (source : String) (problem : Problem) :
    Shared → List (Nat × String) → Shared → Prop
  | here {shared left : Shared} {rest : List (Nat × String)} :
      Template.renderText source metric shared = (.error problem, left) →
      StopsAt metric index source problem shared ((index, source) :: rest) left
  | later {shared middle left : Shared} {i : Nat} {s path : String}
      {rest : List (Nat × String)} :
      Template.renderText s metric shared = (.ok path, middle) →
      StopsAt metric index source problem middle rest left →
      StopsAt metric index source problem shared ((i, s) :: rest) left

theorem renders_or_stopsAt (metric : Metric) (shared : Shared) (templates : List (Nat × String)) :
    (∃ found left, Renders metric shared templates found left) ∨
      ∃ index source problem left, StopsAt metric index source problem shared templates left := by
  induction templates generalizing shared with
  | nil => exact Or.inl ⟨[], shared, .nil⟩
  | cons t rest ih =>
    obtain ⟨index, source⟩ := t
    rcases hr : Template.renderText source metric shared with ⟨problem | path, middle⟩
    · exact Or.inr ⟨index, source, problem, middle, .here hr⟩
    · obtain ⟨found, left, h⟩ | ⟨i, s, problem, left, h⟩ := ih middle
      · exact Or.inl ⟨path :: found, left, .cons hr h⟩
      · exact Or.inr ⟨i, s, problem, left, .later hr h⟩

/-- The matching rules of a table whose first rule stands at `index`, up to the first
that does not continue. -/
def askedFrom (metric : Metric) (index : Nat) (rules : List Rule) : List (Rule × Nat) :=
  upToLast ((rules.zipIdx index).filter fun e => e.1.isMatch metric)

theorem askedFrom_skip {metric : Metric} {rule : Rule} (index : Nat) (rest : List Rule)
    (h : rule.isMatch metric = false) :
    askedFrom metric index (rule :: rest) = askedFrom metric (index + 1) rest := by
  simp [askedFrom, List.zipIdx_cons, h]

theorem askedFrom_continue {metric : Metric} {rule : Rule} (index : Nat) (rest : List Rule)
    (h : rule.isMatch metric = true) (hc : rule.continues = true) :
    askedFrom metric index (rule :: rest) = (rule, index) :: askedFrom metric (index + 1) rest := by
  simp [askedFrom, List.zipIdx_cons, h, upToLast_cons_of_continues, hc]

theorem askedFrom_end {metric : Metric} {rule : Rule} (index : Nat) (rest : List Rule)
    (h : rule.isMatch metric = true) (hc : rule.continues = false) :
    askedFrom metric index (rule :: rest) = [(rule, index)] := by
  simp [askedFrom, List.zipIdx_cons, h, upToLast_cons_of_ends, hc]

theorem sources_cons_of_none {rule : Rule} (index : Nat) (rest : List (Rule × Nat))
    (h : rule.source? = none) : sources ((rule, index) :: rest) = sources rest := by
  simp [sources, h]

theorem sources_cons_of_some {rule : Rule} {source : String} (index : Nat)
    (rest : List (Rule × Nat)) (h : rule.source? = some source) :
    sources ((rule, index) :: rest) = (index, source) :: sources rest := by
  simp [sources, h]

def ends (rules : List (Rule × Nat)) : Bool := rules.any fun e => !e.1.continues

/-- What a rule adds, ahead of what the rules behind it add. -/
theorem Renders.of_cons {rule : Rule} {metric : Metric} {index : Nat} {rest : List (Rule × Nat)}
    {shared left : Shared} {found : List String}
    (h : Renders metric shared (sources ((rule, index) :: rest)) found left) :
    ∃ here more middle, rule.paths metric shared = (.ok here, middle) ∧
      Renders metric middle (sources rest) more left ∧ found = here ++ more := by
  cases hs : rule.source? with
  | none =>
    rw [sources_cons_of_none _ _ hs] at h
    exact ⟨[], found, shared, paths_of_source?_eq_none metric shared hs, h, rfl⟩
  | some source =>
    rw [sources_cons_of_some _ _ hs] at h
    cases h with
    | cons hr hrest => exact ⟨_, _, _, paths_of_renderText hs hr, hrest, rfl⟩

theorem StopsAt.of_cons {rule : Rule} {metric : Metric} {index i : Nat}
    {rest : List (Rule × Nat)} {shared left : Shared} {source : String} {problem : Problem}
    (h : StopsAt metric i source problem shared (sources ((rule, index) :: rest)) left) :
    (i = index ∧ rule.paths metric shared = (.error problem, left)) ∨
      ∃ here middle, rule.paths metric shared = (.ok here, middle) ∧
        StopsAt metric i source problem middle (sources rest) left := by
  cases hs : rule.source? with
  | none =>
    rw [sources_cons_of_none _ _ hs] at h
    exact Or.inr ⟨[], shared, paths_of_source?_eq_none metric shared hs, h⟩
  | some s =>
    rw [sources_cons_of_some _ _ hs] at h
    cases h with
    | here hr => exact Or.inl ⟨rfl, paths_of_renderText_error hs hr⟩
    | later hr hrest => exact Or.inr ⟨_, _, paths_of_renderText hs hr, hrest⟩

theorem rulePaths_of_renders {name : String} {metric : Metric} {index : Nat} {rules : List Rule}
    {shared left : Shared} {found : List String}
    (h : Renders metric shared (sources (askedFrom metric index rules)) found left) :
    rulePaths name metric index rules shared =
      (.ok (found, ends (askedFrom metric index rules)), left) := by
  -- A rule that is skipped still counts for the index, and templates may change the data.
  induction rules generalizing index shared found with
  | nil =>
    cases h
    rfl
  | cons rule rest ih =>
    cases hm : rule.isMatch metric with
    | false =>
      rw [askedFrom_skip index rest hm] at h ⊢
      simp [rulePaths, hm, ih h]
    | true =>
      cases hc : rule.continues with
      | true =>
        rw [askedFrom_continue index rest hm hc] at h ⊢
        obtain ⟨here, more, middle, hp, hmore, rfl⟩ := h.of_cons
        simp [rulePaths, hm, hc, hp, ih hmore, ends]
      | false =>
        rw [askedFrom_end index rest hm hc] at h ⊢
        obtain ⟨here, more, middle, hp, hmore, rfl⟩ := h.of_cons
        cases hmore
        simp [rulePaths, hm, hc, hp, ends]

theorem rulePaths_of_stopsAt {name : String} {metric : Metric} {index : Nat} {rules : List Rule}
    {shared left : Shared} {i : Nat} {source : String} {problem : Problem}
    (h : StopsAt metric i source problem shared (sources (askedFrom metric index rules)) left) :
    rulePaths name metric index rules shared = (.error (.ofProblem i name problem), left) := by
  induction rules generalizing index shared with
  | nil => cases h
  | cons rule rest ih =>
    cases hm : rule.isMatch metric with
    | false =>
      rw [askedFrom_skip index rest hm] at h
      simp [rulePaths, hm, ih h]
    | true =>
      cases hc : rule.continues with
      | true =>
        rw [askedFrom_continue index rest hm hc] at h
        obtain ⟨rfl, hp⟩ | ⟨here, middle, hp, hmore⟩ := h.of_cons
        · simp [rulePaths, hm, hp]
        · simp [rulePaths, hm, hc, hp, ih hmore]
      | false =>
        rw [askedFrom_end index rest hm hc] at h
        obtain ⟨rfl, hp⟩ | ⟨here, middle, -, hmore⟩ := h.of_cons
        · simp [rulePaths, hm, hp]
        · cases hmore

def asked (t : Translator) (metric : Metric) : List (Rule × Nat) :=
  upToLast (matched metric t.rules)

def templates (t : Translator) (metric : Metric) : List (Nat × String) := sources (t.asked metric)

theorem paths_of_nameless (t : Translator) {metric : Metric} (shared : Shared)
    (h : metric.name? = none) :
    t.paths metric shared = (.error (.layout metric.nameless), shared) := by
  rw [paths, h]

theorem paths_of_renders (t : Translator) {metric : Metric} {name : String}
    {shared left : Shared} {found : List String} (named : metric.name? = some name)
    (h : Renders metric shared (t.templates metric) found left) :
    t.paths metric shared = (if ends (t.asked metric) then .ok found
      else ((metric.defaultPath t.choice t.lead).map (found ++ [·])).mapError .layout, left) := by
  have hrules : rulePaths name metric 0 t.rules shared = (.ok (found, ends (t.asked metric)), left) :=
    rulePaths_of_renders h
  rw [paths, named]
  simp only [hrules]
  cases ends (t.asked metric) with
  | true => rfl
  | false => cases metric.defaultPath t.choice t.lead <;> rfl

theorem paths_of_stopsAt (t : Translator) {metric : Metric} {name : String}
    {shared left : Shared} {index : Nat} {source : String} {problem : Problem}
    (named : metric.name? = some name)
    (h : StopsAt metric index source problem shared (t.templates metric) left) :
    t.paths metric shared = (.error (.ofProblem index name problem), left) := by
  have hrules : rulePaths name metric 0 t.rules shared = (.error (.ofProblem index name problem), left) :=
    rulePaths_of_stopsAt h
  rw [paths, named]
  simp only [hrules]

theorem mem_templates {t : Translator} {metric : Metric} {index : Nat} {source : String}
    (h : (index, source) ∈ t.templates metric) :
    ∃ rule, t.rules[index]? = some rule ∧ rule.isMatch metric ∧ rule.source? = some source := by
  obtain ⟨rule, hr, hs⟩ := mem_sources.1 h
  obtain ⟨hi, hm⟩ := mem_matched.1 (upToLast_subset _ hr)
  exact ⟨rule, hi, hm, hs⟩

theorem StopsAt.mem {metric : Metric} {index : Nat} {source : String} {problem : Problem}
    {shared left : Shared} {templates : List (Nat × String)}
    (h : StopsAt metric index source problem shared templates left) :
    (index, source) ∈ templates := by
  induction h with
  | here _ => exact List.mem_cons_self
  | later _ _ ih => exact List.mem_cons_of_mem _ ih

theorem StopsAt.renderText_eq {metric : Metric} {index : Nat} {source : String} {problem : Problem}
    {shared left : Shared} {templates : List (Nat × String)}
    (h : StopsAt metric index source problem shared templates left) :
    ∃ middle, Template.renderText source metric middle = (.error problem, left) := by
  induction h with
  | here hr => exact ⟨_, hr⟩
  | later _ _ ih => exact ih

/-- Rules that are not asked have no part in the paths. -/
theorem paths_congr {t t' : Translator} {metric : Metric} (shared : Shared) (hl : t.lead = t'.lead)
    (hc : t.choice = t'.choice) (ha : t.asked metric = t'.asked metric) :
    t.paths metric shared = t'.paths metric shared := by
  have ht : t.templates metric = t'.templates metric := by rw [templates, ha, templates]
  cases hn : metric.name? with
  | none => rw [paths_of_nameless t shared hn, paths_of_nameless t' shared hn]
  | some name =>
    obtain ⟨found, left, h⟩ | ⟨index, source, problem, left, h⟩ :=
      renders_or_stopsAt metric shared (t.templates metric)
    · rw [paths_of_renders t hn h, paths_of_renders t' hn (ht ▸ h), ha, hl, hc]
    · rw [paths_of_stopsAt t hn h, paths_of_stopsAt t' hn (ht ▸ h)]

/-- What a metric's paths are. Without a name there are none, and its labels are told in
their order. Otherwise the templates of the asked rules are all rendered, and the
default path follows unless one of these rules ends the table; or the first template that gives
no text is blamed, with its rule's index, and nothing is left of those before it. An accident
with that template is not turned into a failure. Rules that are not asked, whatever their
templates, change nothing. -/
theorem paths_eq_policy (t : Translator) (metric : Metric) (shared : Shared) :
    (metric.name? = none → ∃ labels, labels.Perm metric.names ∧ labels.Pairwise (· < ·) ∧
      t.paths metric shared = (.error (.layout (.nameless labels)), shared) ∧
      (Fault.layout (.nameless labels)).problem =
        .failure ⟨.validation, "Metric has no name label", [("labels", .list (labels.map .str))]⟩) ∧
    (∀ name, metric.name? = some name →
      (∀ found left, Renders metric shared (t.templates metric) found left →
        t.paths metric shared = (if ends (t.asked metric) then .ok found
          else ((metric.defaultPath t.choice t.lead).map (found ++ [·])).mapError .layout, left)) ∧
      (∀ index source problem left,
        StopsAt metric index source problem shared (t.templates metric) left →
        t.paths metric shared = (.error (.ofProblem index name problem), left) ∧
        ((∃ message, (Fault.ofProblem index name problem).problem =
            .failure ⟨.template, message, [("template", .str source), ("rule", .int index)]⟩) ∨
          ∃ a middle, Fault.ofProblem index name problem = .accident a ∧
            Template.Mishap source metric middle left a)) ∧
      ((∃ found left, Renders metric shared (t.templates metric) found left) ∨
        ∃ index source problem left,
          StopsAt metric index source problem shared (t.templates metric) left)) ∧
    ∀ rules, upToLast (matched metric rules) = t.asked metric →
      ({ t with rules := rules } : Translator).paths metric shared = t.paths metric shared := by
  refine ⟨fun nameless => ?_, fun name named => ⟨fun found left h => paths_of_renders t named h,
    fun index source problem left h => ⟨paths_of_stopsAt t named h, ?_⟩,
    renders_or_stopsAt metric shared _⟩, fun rules h => paths_congr shared rfl rfl h⟩
  · exact ⟨Metric.sortNames metric.names, Metric.sortNames_perm _,
      Metric.pairwise_lt_sortNames metric.nodup_names, paths_of_nameless t shared nameless, rfl⟩
  · obtain ⟨middle, hr⟩ := h.renderText_eq
    rcases Template.renderText_error hr with ⟨message, rfl⟩ | ⟨a, rfl, mishap⟩
    · exact Or.inl ⟨message, rfl⟩
    · exact Or.inr ⟨a, middle, rfl, mishap⟩

end Translator
end

namespace Translator

/-- A template that cannot be read does no harm in a rule for other metrics or behind
the end of the table, and is blamed in a rule that is asked. -/
theorem paths_unreadable_template :
    (⟨[⟨[("job", some "db")], [], some "\x7b\x7b", true⟩, ⟨[], [], some "t", true⟩,
        ⟨[], [], none, false⟩, ⟨[], [], some "\x7b\x7b", true⟩],
        "p.", .layout .dotted⟩ : Translator).paths (.ofList [(nameLabel, "up")]) .empty =
      (.ok ["t"], .empty) ∧
    (⟨[⟨[("job", some "db")], [], some "\x7b\x7b", true⟩, ⟨[], [], some "t", true⟩,
        ⟨[], [], some "\x7b\x7b", true⟩],
        "p.", .layout .dotted⟩ : Translator).paths (.ofList [(nameLabel, "up")]) .empty =
      (.error (.rule 2 "up" (Template.invalid "\x7b\x7b")), .empty) := by
  constructor
  · refine ((paths_eq_policy _ _ _).2.1 "up" ?_).1 ["t"] .empty ?_
    · decide
    · exact .cons rfl .nil
  · refine (((paths_eq_policy _ _ _).2.1 "up" ?_).2.1 2 "\x7b\x7b"
      (.failure (Template.invalid "\x7b\x7b")) .empty ?_).1
    · decide
    · exact .later rfl (.here rfl)

def numberTaken : String := "\x7b\x7b \x7b\x7d['pop'](10 ** (labels.n | int)) \x7d\x7d"

/-- A fault that holds a number too long to be written is an accident, though the template is
one that can be read and its rule is asked. -/
theorem paths_accident_of_longKey :
    ((⟨[⟨[], [], some numberTaken, false⟩], "", .layout .dotted⟩ : Translator).paths
        (.ofList [(nameLabel, "up"), ("n", "5000")]) .empty).1 = .error (.accident .value) ∧
      ∃ template, Libraries.compileTemplate numberTaken = .ok template := by
  refine ⟨?_, exists_of_isOk (by decide +kernel)⟩
  have stops : (match ((⟨[⟨[], [], some numberTaken, false⟩], "", .layout .dotted⟩ : Translator).paths
      (.ofList [(nameLabel, "up"), ("n", "5000")]) .empty).1 with
    | .error (.accident a) => decide (a = .value)
    | _ => false) = true := by decide +kernel
  split at stops
  · next h => rw [h, of_decide_eq_true stops]
  · cases stops

end Translator
end MetricPaths
