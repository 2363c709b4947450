import Mathlib.Data.List.Perm.Basic
import MetricPaths.Proofs.Translation
import MetricPaths.Proofs.Template.Labels

/-! The order in which labels were given. Which rules a metric comes to, its default path and
its failure without a name do not depend on it; what a template writes can, for a template gets
the labels in that order. It does not if the templates look labels up by name. -/
namespace MetricPaths
open Libraries (Shared)

section
variable {m m' : Metric}

namespace Metric

theorem SameLabels.nameless (same : m.SameLabels m') : m.nameless = m'.nameless :=
  congrArg Layout.Fault.nameless (sortNames_congr same.names_perm)

theorem SameLabels.tags (same : m.SameLabels m') : m.tags = m'.tags := by
  rw [Metric.tags, Metric.tags, same.sortedLabelNames]
  exact List.map_congr_left fun label _ => by rw [same.get? label]

theorem SameLabels.defaultPath (same : m.SameLabels m') (choice : Layout.Choice) (lead : String) :
    m.defaultPath choice lead = m'.defaultPath choice lead := by
  have name : m.name? = m'.name? := same.get? nameLabel
  rw [Metric.defaultPath, Metric.defaultPath, name, same.nameless, same.tags]

end Metric

variable [Libraries]

theorem Rule.isMatch_congr (same : m.SameLabels m') (rule : Rule) :
    rule.isMatch m = rule.isMatch m' := by
  have exactly : holdsExactly m = holdsExactly m' :=
    funext fun predicate => by rw [holdsExactly, holdsExactly, same.get?]
  have pattern : holdsPattern m = holdsPattern m' :=
    funext fun predicate => by rw [holdsPattern, holdsPattern, same.get?]
  rw [isMatch, isMatch, exactly, pattern]

/-- A template writes the same for two metrics, or gives them the same problem, and leaves the
same data, whatever data it is given. -/
def Template.RendersAlike (m m' : Metric) (source : String) : Prop :=
  ∀ shared, renderText source m shared = renderText source m' shared

namespace Translator
open Rule

theorem asked_congr (same : m.SameLabels m') (t : Translator) : t.asked m = t.asked m' :=
  congrArg upToLast (List.filter_congr fun e _ => e.1.isMatch_congr same)

theorem templates_congr (same : m.SameLabels m') (t : Translator) :
    t.templates m = t.templates m' := congrArg sources (asked_congr same t)

theorem Renders.congr {shared left : Shared} {templates : List (Nat × String)} {found : List String}
    (h : Renders m shared templates found left)
    (alike : ∀ e ∈ templates, Template.RendersAlike m m' e.2) :
    Renders m' shared templates found left := by
  induction h with
  | nil => exact .nil
  | cons hr _ ih =>
    obtain ⟨here, others⟩ := List.forall_mem_cons.1 alike
    exact .cons (here _ ▸ hr) (ih others)

theorem StopsAt.congr {index : Nat} {source : String} {problem : Problem} {shared left : Shared}
    {templates : List (Nat × String)} (h : StopsAt m index source problem shared templates left)
    (alike : ∀ e ∈ templates, Template.RendersAlike m m' e.2) :
    StopsAt m' index source problem shared templates left := by
  induction h with
  | here hr => exact .here ((List.forall_mem_cons.1 alike).1 _ ▸ hr)
  | later hr _ ih =>
    obtain ⟨here, others⟩ := List.forall_mem_cons.1 alike
    exact .later (here _ ▸ hr) (ih others)

/-- Metrics that hold the same labels come to the same rules and have the same default paths, in
every layout. They have the same paths, or fail in the same way, and leave the same data, unless
a template that they come to does not render alike for the two: nothing else shows the order in
which labels were given. -/
theorem paths_eq_of_sameLabels (t : Translator) (same : m.SameLabels m') :
    t.asked m = t.asked m' ∧
      (∀ choice lead, m.defaultPath choice lead = m'.defaultPath choice lead) ∧
      ∀ shared, (∀ e ∈ t.templates m, Template.RendersAlike m m' e.2) →
        t.paths m shared = t.paths m' shared := by
  refine ⟨asked_congr same t, same.defaultPath, fun shared alike => ?_⟩
  have name : m.name? = m'.name? := same.get? nameLabel
  cases hn : m.name? with
  | none =>
    rw [paths_of_nameless t shared hn, paths_of_nameless t shared (name ▸ hn), same.nameless]
  | some n =>
    have hn' : m'.name? = some n := name ▸ hn
    obtain ⟨found, left, h⟩ | ⟨index, source, problem, left, h⟩ :=
      renders_or_stopsAt m shared (t.templates m)
    · have other : Renders m' shared (t.templates m') found left :=
        templates_congr same t ▸ h.congr alike
      rw [paths_of_renders t hn h, paths_of_renders t hn' other, asked_congr same t,
        same.defaultPath]
    · have other : StopsAt m' index source problem shared (t.templates m') left :=
        templates_congr same t ▸ h.congr alike
      rw [paths_of_stopsAt t hn h, paths_of_stopsAt t hn' other]

end Translator
end

/-- A template that looks labels up by name renders alike, whatever their order. -/
theorem Template.rendersAlike_of_looksUp {m m' : Metric} (same : m.SameLabels m') {source : String}
    (h : looksUp source) : RendersAlike m m' source :=
  renderText_congr same h

namespace Translator

def upFrom (labels : List (String × String)) : Metric := .ofList ((nameLabel, "up") :: labels)

def single (source : String) : Translator :=
  ⟨[⟨[], [], some source, false⟩], "", .layout .dotted⟩

def byName : String :=
  "\x7b\x7b labels.a \x7d\x7d.\x7b% if 'b' in labels %\x7d\x7b\x7b labels['b'] \x7d\x7d\x7b% endif %\x7d"

theorem paths_of_lookups :
    (upFrom [("b", "2"), ("a", "1")]).SameLabels (upFrom [("a", "1"), ("b", "2")]) ∧
      (single byName).paths (upFrom [("b", "2"), ("a", "1")]) Template.Shared.empty =
        (single byName).paths (upFrom [("a", "1"), ("b", "2")]) Template.Shared.empty ∧
      ((single byName).paths (upFrom [("a", "1"), ("b", "2")]) .empty).1.toOption = some ["1.2"] := by
  have same : (upFrom [("b", "2"), ("a", "1")]).SameLabels (upFrom [("a", "1"), ("b", "2")]) :=
    Metric.sameLabels_iff_perm.2 (by decide)
  obtain ⟨-, -, paths⟩ := paths_eq_of_sameLabels (single byName) same
  have lookUp : ∀ e ∈ (single byName).templates (upFrom [("b", "2"), ("a", "1")]),
      Template.looksUp e.2 := by decide +kernel
  exact ⟨same, paths .empty fun e he => Template.rendersAlike_of_looksUp same (lookUp e he),
    by decide +kernel⟩

def throughLabels : String :=
  "\x7b% for name in labels %\x7d\x7b\x7b name \x7d\x7d.\x7b% endfor %\x7d"

/-- A template that goes through the labels meets them in the order in which they were given. -/
theorem paths_through_labels :
    (upFrom [("b", "2"), ("a", "1")]).SameLabels (upFrom [("a", "1"), ("b", "2")]) ∧
      ((single throughLabels).paths (upFrom [("b", "2"), ("a", "1")]) .empty).1.toOption =
        some ["__name__.b.a."] ∧
      ((single throughLabels).paths (upFrom [("a", "1"), ("b", "2")]) .empty).1.toOption =
        some ["__name__.a.b."] :=
  ⟨Metric.sameLabels_iff_perm.2 (by decide), by decide +kernel, by decide +kernel⟩

end Translator
end MetricPaths
