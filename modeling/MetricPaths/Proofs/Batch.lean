import MetricPaths.Libraries.Own
import MetricPaths.Proofs.Translation

/-! What becomes of a batch. A metric that fails is told in the log and left out, and does
not disturb the others as long as no template changes the data that is shared. Each metric is
either in the results or counted as dropped, unless one of them meets an accident, which ends
the batch. -/
namespace MetricPaths
open Libraries (Shared)

namespace Translator

section
variable [Libraries]

/-- No template that the metric comes to changes the shared data. -/
def Harmless (t : Translator) (metric : Metric) (shared : Shared) : Prop :=
  ∀ e ∈ t.templates metric, (Template.renderText e.2 metric shared).2 = shared

theorem Renders.left_eq {metric : Metric} {shared left : Shared} {templates : List (Nat × String)}
    {found : List String} (h : Renders metric shared templates found left)
    (spared : ∀ e ∈ templates, (Template.renderText e.2 metric shared).2 = shared) :
    left = shared := by
  induction h with
  | nil => rfl
  | cons hr _ ih =>
    obtain ⟨here, rest⟩ := List.forall_mem_cons.1 spared
    rw [hr] at here
    subst here
    exact ih rest

theorem StopsAt.left_eq {metric : Metric} {index : Nat} {source : String} {problem : Problem}
    {shared left : Shared} {templates : List (Nat × String)}
    (h : StopsAt metric index source problem shared templates left)
    (spared : ∀ e ∈ templates, (Template.renderText e.2 metric shared).2 = shared) :
    left = shared := by
  induction h with
  | here hr =>
    have here := (List.forall_mem_cons.1 spared).1
    rwa [hr] at here
  | later hr _ ih =>
    obtain ⟨here, rest⟩ := List.forall_mem_cons.1 spared
    rw [hr] at here
    subst here
    exact ih rest

theorem Harmless.paths_left {t : Translator} {metric : Metric} {shared : Shared}
    (h : t.Harmless metric shared) : (t.paths metric shared).2 = shared := by
  cases hn : metric.name? with
  | none => rw [paths_of_nameless t shared hn]
  | some name =>
    obtain ⟨found, left, hr⟩ | ⟨index, source, problem, left, hs⟩ :=
      renders_or_stopsAt metric shared (t.templates metric)
    · rw [paths_of_renders t hn hr, hr.left_eq h]
    · rw [paths_of_stopsAt t hn hs, hs.left_eq h]

/-- Why a metric has no paths: it has no name or its layout is none, or the template of a
rule for it is at fault, or there was an accident with that template. -/
theorem paths_error {t : Translator} {metric : Metric} {shared left : Shared} {fault : Fault}
    (h : t.paths metric shared = (.error fault, left)) :
    (∃ f, fault = .layout f) ∨
    (∃ index name source failure, fault = .rule index name failure ∧
      metric.name? = some name ∧ (index, source) ∈ t.templates metric ∧
      failure.kind = .template ∧ failure.details = [("template", .str source)]) ∨
    ∃ a, fault = .accident a := by
  cases hn : metric.name? with
  | none =>
    rw [paths_of_nameless t shared hn] at h
    cases h
    exact Or.inl ⟨_, rfl⟩
  | some name =>
    obtain ⟨found, middle, hr⟩ | ⟨index, source, problem, middle, hs⟩ :=
      renders_or_stopsAt metric shared (t.templates metric)
    · rw [paths_of_renders t hn hr] at h
      split at h
      · cases h
      · -- Only the default path can fail now.
        cases hd : metric.defaultPath t.choice t.lead with
        | error f =>
          rw [hd] at h
          cases h
          exact Or.inl ⟨f, rfl⟩
        | ok last =>
          rw [hd] at h
          cases h
    · rw [paths_of_stopsAt t hn hs] at h
      cases h
      obtain ⟨_, hr⟩ := hs.renderText_eq
      rcases Template.renderText_error hr with ⟨message, rfl⟩ | ⟨a, rfl, -⟩
      · exact Or.inr (Or.inl ⟨index, name, source, _, rfl, rfl, hs.mem, rfl, rfl⟩)
      · exact Or.inr (Or.inr ⟨a, rfl⟩)

theorem paths_error_problem {t : Translator} {metric : Metric} {shared left : Shared}
    {fault : Fault} (h : t.paths metric shared = (.error fault, left)) :
    (∃ failure, fault.problem = .failure failure ∧
      Log.clash? ownFields failure.details = none) ∨ ∃ a, fault = .accident a := by
  obtain ⟨f, rfl⟩ | ⟨index, name, source, failure, rfl, -, -, -, details⟩ | ⟨a, rfl⟩ := paths_error h
  · exact Or.inl ⟨_, rfl, by cases f <;> rfl⟩
  · refine Or.inl ⟨_, rfl, ?_⟩
    simp [details, Details.setDefault, Details.has, Log.clash?, Log.callNames, ownFields]
  · exact Or.inr ⟨a, rfl⟩

def Settles (t : Translator) (metric : Metric) (shared : Shared) : Prop :=
  ∀ a, (t.paths metric shared).1 ≠ .error (.accident a)

theorem Settles.exists_failure {t : Translator} {metric : Metric} {shared left : Shared}
    {fault : Fault} (settles : t.Settles metric shared)
    (h : t.paths metric shared = (.error fault, left)) :
    ∃ failure, fault.problem = .failure failure ∧ Log.clash? ownFields failure.details = none := by
  rcases paths_error_problem h with failed | ⟨a, rfl⟩
  · exact failed
  · exact absurd (congrArg Prod.fst h) (settles a)

theorem each_cons_of_ok {t : Translator} {metric : Metric} {rest : List Metric}
    {shared left : Shared} {found : List String} (h : t.paths metric shared = (.ok found, left)) :
    t.each (metric :: rest) shared =
      { t.each rest left with results := (metric, found) :: (t.each rest left).results } := by
  rw [each, h]

theorem each_cons_of_failure {t : Translator} {metric : Metric} {rest : List Metric}
    {shared left : Shared} {fault : Fault} {failure : Failure}
    (h : t.paths metric shared = (.error fault, left)) (hp : fault.problem = .failure failure)
    (free : Log.clash? ownFields failure.details = none) :
    t.each (metric :: rest) shared =
      { t.each rest left with
        log := fault.log ++ dropped metric failure :: (t.each rest left).log
        dropped := (t.each rest left).dropped + 1 } := by
  rw [each, h]
  simp only [hp, free]

theorem each_cons_of_accident {t : Translator} {metric : Metric} (rest : List Metric)
    {shared left : Shared} {a : Accident} (h : t.paths metric shared = (.error (.accident a), left)) :
    t.each (metric :: rest) shared = ⟨[], [], 0, left, some a⟩ := by
  rw [each, h]
  rfl

def outcome? (t : Translator) (shared : Shared) (metric : Metric) : Option (Metric × List String) :=
  match (t.paths metric shared).1 with
  | .ok found => some (metric, found)
  | .error _ => none

def report (t : Translator) (shared : Shared) (metric : Metric) : Log :=
  match (t.paths metric shared).1 with
  | .ok _ => []
  | .error fault =>
    match fault.problem with
    | .failure failure => fault.log ++ [dropped metric failure]
    | .accident _ => []

theorem each_complete (t : Translator) (metrics : List Metric) (shared : Shared)
    (ended : (t.each metrics shared).accident = none) :
    (t.each metrics shared).results.length + (t.each metrics shared).dropped = metrics.length := by
  induction metrics generalizing shared with
  | nil => rfl
  | cons metric rest ih =>
    rcases h : t.paths metric shared with ⟨fault | found, left⟩
    · rcases paths_error_problem h with ⟨failure, hp, free⟩ | ⟨a, rfl⟩
      · rw [each_cons_of_failure h hp free] at ended ⊢
        rw [List.length_cons, ← ih left ended]
        rfl
      · rw [each_cons_of_accident rest h] at ended
        cases ended
    · rw [each_cons_of_ok h] at ended ⊢
      have count := ih left ended
      simp only [List.length_cons]
      omega

/-- Metrics that meet no accident add what they add alone, and the rest of the batch starts
where it would without them. -/
theorem each_append_of_settles {t : Translator} {metrics : List Metric} (rest : List Metric)
    {shared : Shared} (harmless : ∀ metric ∈ metrics, t.Harmless metric shared)
    (settles : ∀ metric ∈ metrics, t.Settles metric shared) :
    (t.each (metrics ++ rest) shared).results =
        metrics.filterMap (t.outcome? shared) ++ (t.each rest shared).results ∧
      (t.each (metrics ++ rest) shared).log =
        metrics.flatMap (t.report shared) ++ (t.each rest shared).log ∧
      (t.each (metrics ++ rest) shared).accident = (t.each rest shared).accident := by
  induction metrics with
  | nil => exact ⟨rfl, rfl, rfl⟩
  | cons metric others ih =>
    obtain ⟨spared, harmless⟩ := List.forall_mem_cons.1 harmless
    obtain ⟨settled, settles⟩ := List.forall_mem_cons.1 settles
    obtain ⟨results, log, accident⟩ := ih harmless settles
    have left_eq := spared.paths_left
    rw [List.cons_append]
    rcases h : t.paths metric shared with ⟨fault | found, left⟩ <;>
      obtain rfl : left = shared := by rwa [h] at left_eq
    · obtain ⟨failure, hp, free⟩ := settled.exists_failure h
      rw [each_cons_of_failure h hp free]
      simp [outcome?, report, h, hp, results, log, accident]
    · rw [each_cons_of_ok h]
      simp [outcome?, report, h, results, log, accident]

/-- A batch that comes to its end has met no accident. -/
theorem settles_of_ended {t : Translator} {metrics : List Metric} {shared : Shared}
    (harmless : ∀ metric ∈ metrics, t.Harmless metric shared)
    (ended : (t.each metrics shared).accident = none) : ∀ metric ∈ metrics, t.Settles metric shared := by
  induction metrics with
  | nil => exact List.forall_mem_nil _
  | cons metric rest ih =>
    obtain ⟨spared, harmless⟩ := List.forall_mem_cons.1 harmless
    have left_eq := spared.paths_left
    rcases h : t.paths metric shared with ⟨fault | found, left⟩ <;>
      obtain rfl : left = shared := by rwa [h] at left_eq
    · rcases paths_error_problem h with ⟨failure, hp, free⟩ | ⟨a, rfl⟩
      · rw [each_cons_of_failure h hp free] at ended
        refine List.forall_mem_cons.2 ⟨fun a ha => ?_, ih harmless ended⟩
        rw [h] at ha
        cases ha
        cases hp
      · rw [each_cons_of_accident rest h] at ended
        cases ended
    · rw [each_cons_of_ok h] at ended
      refine List.forall_mem_cons.2 ⟨fun a ha => ?_, ih harmless ended⟩
      rw [h] at ha
      cases ha

theorem each_of_ended {t : Translator} {metrics : List Metric} {shared : Shared}
    (harmless : ∀ metric ∈ metrics, t.Harmless metric shared)
    (ended : (t.each metrics shared).accident = none) :
    (t.each metrics shared).results = metrics.filterMap (t.outcome? shared) ∧
      (t.each metrics shared).log = metrics.flatMap (t.report shared) := by
  obtain ⟨results, log, -⟩ := each_append_of_settles [] harmless (settles_of_ended harmless ended)
  simpa [each] using And.intro results log

theorem dropped_each {t : Translator} {metrics : List Metric} {shared : Shared}
    (harmless : ∀ metric ∈ metrics, t.Harmless metric shared)
    (ended : (t.each metrics shared).accident = none) :
    (t.each metrics shared).dropped = metrics.countP fun m => (t.outcome? shared m).isNone := by
  have count := each_complete t metrics shared ended
  have total : metrics.length = _ + _ :=
    List.length_eq_countP_add_countP fun m => (t.outcome? shared m).isSome
  rw [(each_of_ended harmless ended).1, List.length_filterMap_eq_countP, total] at count
  rw [Nat.add_left_cancel count]
  exact List.countP_congr fun m _ => by simp

theorem batch_of_accident {t : Translator} {metrics : List Metric} {shared : Shared}
    (h : (t.each metrics shared).accident.isSome) :
    t.batch metrics shared = { t.each metrics shared with results := [] } := by
  rw [batch, if_pos h]

theorem batch_of_ended {t : Translator} {metrics : List Metric} {shared : Shared}
    (ended : (t.each metrics shared).accident = none) :
    t.batch metrics shared = { t.each metrics shared with
      log := (t.each metrics shared).log ++
        if (t.each metrics shared).dropped = 0 then [] else
          [⟨"batch_translated", .info,
            [("translated", .int (t.each metrics shared).results.length),
              ("dropped", .int (t.each metrics shared).dropped)]⟩] } := by
  rw [batch, if_neg (by simp [ended])]
  split_ifs
  · rw [List.append_nil]
  · rfl

theorem accident_batch (t : Translator) (metrics : List Metric) (shared : Shared) :
    (t.batch metrics shared).accident = (t.each metrics shared).accident := by
  cases h : (t.each metrics shared).accident with
  | none => rw [batch_of_ended h, h]
  | some a => rw [batch_of_accident (by rw [h]; rfl), h]

theorem results_batch {t : Translator} {metrics : List Metric} {shared : Shared}
    (harmless : ∀ metric ∈ metrics, t.Harmless metric shared) :
    (t.batch metrics shared).results = if (t.batch metrics shared).accident.isSome then []
      else metrics.filterMap (t.outcome? shared) := by
  rw [accident_batch]
  cases h : (t.each metrics shared).accident with
  | none =>
    rw [batch_of_ended h]
    exact (each_of_ended harmless h).1
  | some a =>
    rw [batch_of_accident (by rw [h]; rfl)]
    rfl

/-- The first metric that meets an accident leaves nothing of the batch but the reports of those
before it. -/
theorem batch_of_firstAccident {t : Translator} {before : List Metric} {metric : Metric}
    {shared : Shared} {a : Accident} (after : List Metric)
    (harmless : ∀ m ∈ before, t.Harmless m shared) (settles : ∀ m ∈ before, t.Settles m shared)
    (accident : (t.paths metric shared).1 = .error (.accident a)) :
    (t.batch (before ++ metric :: after) shared).accident = some a ∧
      (t.batch (before ++ metric :: after) shared).results = [] ∧
      (t.batch (before ++ metric :: after) shared).log = before.flatMap (t.report shared) := by
  obtain ⟨-, log, ended⟩ := each_append_of_settles (metric :: after) harmless settles
  rcases h : t.paths metric shared with ⟨fault, left⟩
  rw [h] at accident
  obtain rfl : fault = .error (.accident a) := accident
  rw [each_cons_of_accident after h] at log ended
  rw [batch_of_accident (by rw [ended]; rfl)]
  exact ⟨ended, rfl, by rw [log, List.append_nil]⟩

/-- The log tells why a metric is left out. One without a name or a layout has a warning;
with a template at fault, an entry for debugging stands directly before it and has the same
rule and message. -/
def Tells (t : Translator) (metric : Metric) (failure : Failure) (log : Log) : Prop :=
  (failure.kind = .validation ∧ log =
    [⟨"metric_dropped", .warning, [("metric", .ofText? metric.name?),
      ("error_type", .str "ValidationError"), ("error", .str failure.message)] ++
      failure.details⟩]) ∨
  (failure.kind = .template ∧ ∃ (name : String) (index : Nat) (rule : Rule) (source : String),
    metric.name? = some name ∧ t.rules[index]? = some rule ∧ rule.isMatch metric ∧
    rule.source? = some source ∧ log =
      [⟨"template_render_failed", .debug, [("rule", .int index), ("metric", .str name),
        ("error", .str failure.message)]⟩,
      ⟨"metric_dropped", .warning, [("metric", .str name), ("error_type", .str "TemplateError"),
        ("error", .str failure.message), ("template", .str source), ("rule", .int index)]⟩])

theorem tells_report {t : Translator} {metric : Metric} {shared left : Shared} {fault : Fault}
    {failure : Failure} (h : t.paths metric shared = (.error fault, left))
    (hp : fault.problem = .failure failure) :
    t.Tells metric failure (t.report shared metric) := by
  obtain ⟨f, rfl⟩ | ⟨index, name, source, stopped, rfl, named, asked, kind, details⟩ | ⟨a, rfl⟩ :=
    paths_error h
  · cases hp
    refine Or.inl ⟨by cases f <;> rfl, ?_⟩
    cases f <;> simp [report, h, Fault.log, Fault.problem, Layout.Fault.failure, dropped,
      FailureKind.label]
  · cases hp
    obtain ⟨rule, hi, hm, hs⟩ := mem_templates asked
    refine Or.inr ⟨kind, name, index, rule, source, named, hi, hm, hs, ?_⟩
    simp [report, h, Fault.log, Fault.problem, dropped, FailureKind.label, kind, details, named,
      Value.ofText?, Details.setDefault, Details.has]
  · cases hp

/-- What becomes of a batch where no template changes the shared data. It comes to its end exactly
if no metric meets an accident. Then its results are the metrics that have paths, in their order and
as often as they stand in the batch, each with the paths it has alone. Each other metric adds its
report to the log, which ends with the counts if and only if there is one; no metric is left
out of account. But the first metric that meets an accident takes the whole batch with it, and
only the reports of those before it are left. -/
theorem batch_accounts_for_every_metric (t : Translator) (metrics : List Metric) (shared : Shared)
    (harmless : ∀ metric ∈ metrics, t.Harmless metric shared) :
    ((t.batch metrics shared).accident = none ↔ ∀ metric ∈ metrics, t.Settles metric shared) ∧
    ((t.batch metrics shared).accident = none →
      (t.batch metrics shared).results = metrics.filterMap (t.outcome? shared) ∧
      (t.batch metrics shared).dropped = metrics.countP (fun m => (t.outcome? shared m).isNone) ∧
      (t.batch metrics shared).results.length + (t.batch metrics shared).dropped = metrics.length ∧
      (t.batch metrics shared).log = metrics.flatMap (t.report shared) ++
        (if (t.batch metrics shared).dropped = 0 then [] else
          [⟨"batch_translated", .info,
            [("translated", .int (t.batch metrics shared).results.length),
              ("dropped", .int (t.batch metrics shared).dropped)]⟩])) ∧
    (∀ before metric after a, metrics = before ++ metric :: after →
      (∀ m ∈ before, t.Settles m shared) → (t.paths metric shared).1 = .error (.accident a) →
      (t.batch metrics shared).accident = some a ∧ (t.batch metrics shared).results = [] ∧
      (t.batch metrics shared).log = before.flatMap (t.report shared)) ∧
    ∀ metric ∈ metrics,
      (∀ found left, t.paths metric shared = (.ok found, left) →
        t.outcome? shared metric = some (metric, found) ∧ t.report shared metric = []) ∧
      ∀ fault left, t.paths metric shared = (.error fault, left) →
        t.outcome? shared metric = none ∧
        ((∃ failure, fault.problem = .failure failure ∧
            t.Tells metric failure (t.report shared metric)) ∨
          ∃ a, fault = .accident a ∧ t.report shared metric = []) := by
  rw [accident_batch]
  refine ⟨⟨settles_of_ended harmless, fun settles => ?_⟩, fun ended => ?_,
    fun before metric after a split settles accident => ?_,
    fun metric _ => ⟨fun found left h => ?_, fun fault left h => ⟨?_, ?_⟩⟩⟩
  · obtain ⟨-, -, ended⟩ := each_append_of_settles [] harmless settles
    rwa [List.append_nil] at ended
  · obtain ⟨results, log⟩ := each_of_ended harmless ended
    rw [batch_of_ended ended]
    exact ⟨results, dropped_each harmless ended, each_complete t metrics shared ended, by rw [log]⟩
  · subst split
    rw [← accident_batch]
    exact batch_of_firstAccident after (fun m hm => harmless m (List.mem_append_left _ hm)) settles
      accident
  · simp [outcome?, report, h]
  · simp [outcome?, h]
  · rcases paths_error_problem h with ⟨failure, hp, -⟩ | ⟨a, rfl⟩
    · exact Or.inl ⟨failure, hp, tells_report h hp⟩
    · exact Or.inr ⟨a, rfl, by simp [report, h, Fault.problem]⟩

end
end Translator

namespace Template

def final (template : Template) (metric : Metric) (shared : Shared) : Machine :=
  ((runAll bound [0] template.body).run.run
    ⟨shared.store, #[context metric shared.root], shared.store.size, false⟩).2

theorem render_left (template : Template) (metric : Metric) (shared : Shared) :
    (template.render metric shared).2 = shared.left (template.final metric shared) := rfl

/-- There are no shared lists, or none of them is changed while a template is rendered. -/
def Spares (template : Template) (metric : Metric) (shared : Shared) : Prop :=
  shared.store.isEmpty = true ∨ (template.final metric shared).touched = false

instance (template : Template) (metric : Metric) (shared : Shared) :
    Decidable (template.Spares metric shared) :=
  inferInstanceAs (Decidable (_ ∨ _))

theorem Spares.render_left {template : Template} {metric : Metric} {shared : Shared}
    (h : template.Spares metric shared) : (template.render metric shared).2 = shared := by
  rw [Template.render_left, Shared.left]
  rcases h with empty | untouched
  · rw [empty, Bool.true_or, if_pos rfl]
  · rw [untouched, Bool.not_false, Bool.or_true, if_pos rfl]

end Template

namespace Translator

theorem harmless_of_spares {t : Translator} {metric : Metric} {shared : Template.Shared}
    (h : ∀ e ∈ t.templates metric, ∀ template ∈ (Template.compile e.2).toOption,
      template.Spares metric shared) : t.Harmless metric shared := by
  refine fun e he => Template.renderText_left fun template hc => (h e he template ?_).render_left
  rw [mapError_eq_ok_iff.1 hc]
  rfl

def sample : Translator :=
  ⟨[⟨[("job", some "db")], [], some "\x7b\x7b labels.owner \x7d\x7d", true⟩,
      ⟨[("job", some "web")], [], some "\x7b\x7b shared.zones[0] \x7d\x7d", false⟩],
    "p.", .unsupported "graphite"⟩

def sampleMetrics : List Metric :=
  [.ofList [(nameLabel, "up"), ("job", "web")], .ofList [("job", "web")],
    .ofList [(nameLabel, "up"), ("job", "db")], .ofList [(nameLabel, "up"), ("job", "web")],
    .ofList [(nameLabel, "up")]]

def sampleShared : Template.Shared := .ofValue (.map [(.str "zones", .list [.str "eu", .str "us"])])

theorem batch_accounts_for_sample :
    (∀ metric ∈ sampleMetrics, sample.Harmless metric sampleShared) ∧
    (∀ metric ∈ sampleMetrics, sample.Settles metric sampleShared) ∧
    (sample.batch sampleMetrics sampleShared).accident = none ∧
    (sample.batch sampleMetrics sampleShared).results.map (·.2) = [["eu"], ["eu"]] ∧
    (sample.batch sampleMetrics sampleShared).dropped = 3 ∧
    (sample.batch sampleMetrics sampleShared).log.map (·.event) =
      ["metric_dropped", "template_render_failed", "metric_dropped", "metric_dropped",
        "batch_translated"] := by
  have harmless : ∀ metric ∈ sampleMetrics, sample.Harmless metric sampleShared := by
    have spared : ∀ metric ∈ sampleMetrics, ∀ e ∈ sample.templates metric,
        ∀ template ∈ (Template.compile e.2).toOption, template.Spares metric sampleShared := by
      decide +kernel
    exact fun metric hm => harmless_of_spares (spared metric hm)
  have settles : ∀ metric ∈ sampleMetrics, sample.Settles metric sampleShared := by
    have settled : ∀ metric ∈ sampleMetrics, (match (sample.paths metric sampleShared).1 with
        | .error (.accident _) => false
        | _ => true) = true := by
      decide +kernel
    intro metric hm a h
    have := settled metric hm
    rw [h] at this
    cases this
  obtain ⟨ends, accounted, -⟩ :=
    batch_accounts_for_every_metric sample sampleMetrics sampleShared harmless
  have ended := ends.2 settles
  obtain ⟨results, dropped, -, log⟩ := accounted ended
  refine ⟨harmless, settles, ended, ?_, ?_, ?_⟩
  · rw [results]
    decide +kernel
  · rw [dropped]
    decide +kernel
  · rw [log, dropped]
    decide +kernel

def longKeyed : Translator := ⟨[⟨[("job", some "db")], [], some numberTaken, false⟩], "", .layout .dotted⟩

def longKeyedMetrics : List Metric :=
  [.ofList [(nameLabel, "up")], .ofList [(nameLabel, "up"), ("job", "db"), ("n", "5000")]]

/-- One metric whose key is too long to be written takes the paths of the others with it. -/
theorem batch_of_longKey :
    (∀ metric ∈ longKeyedMetrics, longKeyed.Harmless metric Template.Shared.empty) ∧
      longKeyedMetrics.map (fun m => (longKeyed.paths m Template.Shared.empty).1.toOption) =
        [some ["up"], none] ∧
      (longKeyed.batch longKeyedMetrics Template.Shared.empty).accident = some .value ∧
      (longKeyed.batch longKeyedMetrics Template.Shared.empty).results.map (·.2) = [] := by
  have spared : ∀ metric ∈ longKeyedMetrics, ∀ e ∈ longKeyed.templates metric,
      ∀ template ∈ (Template.compile e.2).toOption, template.Spares metric .empty := by
    decide +kernel
  exact ⟨fun metric hm => harmless_of_spares (spared metric hm), by decide +kernel,
    by decide +kernel, by decide +kernel⟩

end Translator
end MetricPaths
