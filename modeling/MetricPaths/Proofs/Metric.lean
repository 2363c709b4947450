import MetricPaths.Metric

/-! Metrics as mappings: what is found under a label name, when two metrics hold the
same labels, and the order in which paths have the labels, which depends on nothing
but the mapping. -/
namespace MetricPaths
namespace Metric

theorem lookup_eq_some_iff_mem {labels : List (String × String)} {name value : String}
    (distinct : (labels.map Prod.fst).Nodup) :
    labels.lookup name = some value ↔ (name, value) ∈ labels := by
  induction labels with
  | nil => simp
  | cons e rest ih =>
    obtain ⟨n, v⟩ := e
    rw [List.map_cons, List.nodup_cons] at distinct
    rw [List.lookup_cons, List.mem_cons]
    by_cases h : name = n
    · subst h
      have absent : (name, value) ∉ rest := fun hm =>
        distinct.1 (List.mem_map.2 ⟨_, hm, rfl⟩)
      simp [absent, eq_comm]
    · rw [beq_false_of_ne h, ih distinct.2]
      simp [h]

theorem get?_eq_some_iff {m : Metric} {label value : String} :
    m.get? label = some value ↔ (label, value) ∈ m.labels :=
  lookup_eq_some_iff_mem m.distinct

theorem mem_names_iff {m : Metric} {label : String} :
    label ∈ m.names ↔ ∃ value, (label, value) ∈ m.labels := by
  simp [names]

theorem name?_eq_some_iff {m : Metric} {name : String} :
    m.name? = some name ↔ (nameLabel, name) ∈ m.labels :=
  get?_eq_some_iff

/-- Two metrics are the same mapping, in whatever order they were built. -/
def SameLabels (m₁ m₂ : Metric) : Prop := ∀ e, e ∈ m₁.labels ↔ e ∈ m₂.labels

theorem nodup_of_names {labels : List (String × String)} (h : (labels.map Prod.fst).Nodup) :
    labels.Nodup :=
  (List.pairwise_map.1 h).imp fun hne he => hne (congrArg Prod.fst he)

theorem nodup_labels (m : Metric) : m.labels.Nodup := nodup_of_names m.distinct

theorem sameLabels_iff_perm {m₁ m₂ : Metric} : m₁.SameLabels m₂ ↔ m₁.labels.Perm m₂.labels :=
  ⟨fun h => (List.perm_ext_iff_of_nodup m₁.nodup_labels m₂.nodup_labels).2 h,
    fun h _ => h.mem_iff⟩

theorem SameLabels.get? {m₁ m₂ : Metric} (h : m₁.SameLabels m₂) (label : String) :
    m₁.get? label = m₂.get? label := by
  apply Option.ext
  intro value
  rw [get?_eq_some_iff, get?_eq_some_iff]
  exact h _

theorem SameLabels.names_perm {m₁ m₂ : Metric} (h : m₁.SameLabels m₂) : m₁.names.Perm m₂.names :=
  (sameLabels_iff_perm.1 h).map Prod.fst

theorem sortNames_perm (names : List String) : (sortNames names).Perm names :=
  List.mergeSort_perm names _

theorem pairwise_le_sortNames (names : List String) : (sortNames names).Pairwise (· ≤ ·) := by
  have sorted : (sortNames names).Pairwise fun a b => decide (a ≤ b) = true := by
    apply List.pairwise_mergeSort
    · intro a b c hab hbc
      rw [decide_eq_true_eq] at *
      exact Std.le_trans hab hbc
    · intro a b
      simpa using Std.le_total (a := a) (b := b)
  exact sorted.imp of_decide_eq_true

theorem pairwise_lt_sortNames {names : List String} (h : names.Nodup) :
    (sortNames names).Pairwise (· < ·) := by
  have nodup : (sortNames names).Nodup := (sortNames_perm names).nodup_iff.2 h
  exact ((pairwise_le_sortNames names).and nodup).imp fun h => Std.lt_of_le_of_ne h.1 h.2

theorem sortNames_congr {names others : List String} (h : names.Perm others) :
    sortNames names = sortNames others :=
  List.Perm.eq_of_pairwise (fun _ _ _ _ => Std.le_antisymm) (pairwise_le_sortNames names)
    (pairwise_le_sortNames others) ((sortNames_perm names).trans (h.trans (sortNames_perm others).symm))

theorem nodup_names (m : Metric) : m.names.Nodup := m.distinct

theorem mem_sortedLabelNames {m : Metric} {label : String} :
    label ∈ m.sortedLabelNames ↔ label ∈ m.names ∧ label ≠ nameLabel := by
  rw [sortedLabelNames, (sortNames_perm _).mem_iff, List.mem_filter]
  simp

theorem pairwise_lt_sortedLabelNames (m : Metric) : m.sortedLabelNames.Pairwise (· < ·) :=
  pairwise_lt_sortNames (m.nodup_names.filter _)

theorem SameLabels.sortedLabelNames {m₁ m₂ : Metric} (h : m₁.SameLabels m₂) :
    m₁.sortedLabelNames = m₂.sortedLabelNames :=
  sortNames_congr (h.names_perm.filter _)

def others (m : Metric) : List (String × String) :=
  m.sortedLabelNames.map fun label => (label, (m.get? label).getD "")

theorem others_names (m : Metric) : m.others.map Prod.fst = m.sortedLabelNames := by
  simp [others, Function.comp_def]

theorem mem_others {m : Metric} {e : String × String} :
    e ∈ m.others ↔ e ∈ m.labels ∧ e.1 ≠ nameLabel := by
  obtain ⟨label, value⟩ := e
  rw [others, List.mem_map]
  constructor
  · rintro ⟨l, hl, he⟩
    obtain ⟨hm, hne⟩ := mem_sortedLabelNames.1 hl
    obtain ⟨v, hv⟩ := mem_names_iff.1 hm
    rw [get?_eq_some_iff.2 hv] at he
    cases he
    exact ⟨hv, hne⟩
  · rintro ⟨hm, hne⟩
    refine ⟨label, mem_sortedLabelNames.2 ⟨mem_names_iff.2 ⟨value, hm⟩, hne⟩, ?_⟩
    rw [get?_eq_some_iff.2 hm]
    rfl

theorem pairwise_lt_others (m : Metric) : m.others.Pairwise (·.1 < ·.1) := by
  have sorted := m.pairwise_lt_sortedLabelNames
  rw [← others_names, List.pairwise_map] at sorted
  exact sorted

theorem nodup_others_names (m : Metric) : (m.others.map Prod.fst).Nodup := by
  rw [others_names]
  exact m.pairwise_lt_sortedLabelNames.imp fun h => Std.ne_of_lt h

theorem others_perm (m : Metric) : m.others.Perm (m.labels.filter (·.1 ≠ nameLabel)) := by
  rw [List.perm_ext_iff_of_nodup (nodup_of_names m.nodup_others_names)
    (m.nodup_labels.filter _)]
  intro e
  rw [mem_others, List.mem_filter]
  simp

theorem labels_perm {m : Metric} {name : String} (h : m.name? = some name) :
    m.labels.Perm ((nameLabel, name) :: m.others) := by
  have fresh : (nameLabel, name) ∉ m.others := fun hm => (mem_others.1 hm).2 rfl
  rw [List.perm_ext_iff_of_nodup m.nodup_labels
    (List.nodup_cons.2 ⟨fresh, nodup_of_names m.nodup_others_names⟩)]
  intro e
  rw [List.mem_cons, mem_others]
  constructor
  · intro he
    by_cases hn : e.1 = nameLabel
    · have hv : m.get? nameLabel = some e.2 := get?_eq_some_iff.2 (hn ▸ he)
      exact Or.inl (Prod.ext hn (Option.some.inj (hv.symm.trans h)))
    · exact Or.inr ⟨he, hn⟩
  · rintro (rfl | he)
    · exact name?_eq_some_iff.1 h
    · exact he.1

theorem SameLabels.others {m₁ m₂ : Metric} (h : m₁.SameLabels m₂) : m₁.others = m₂.others := by
  rw [Metric.others, Metric.others, h.sortedLabelNames]
  exact List.map_congr_left fun label _ => by rw [h.get? label]

theorem sameLabels_iff_others {m₁ m₂ : Metric} {n₁ n₂ : String} (h₁ : m₁.name? = some n₁)
    (h₂ : m₂.name? = some n₂) : m₁.SameLabels m₂ ↔ n₁ = n₂ ∧ m₁.others = m₂.others := by
  constructor
  · intro h
    refine ⟨?_, h.others⟩
    rw [← Option.some.injEq, ← h₁, ← h₂]
    exact h.get? nameLabel
  · rintro ⟨rfl, ho⟩
    rw [sameLabels_iff_perm]
    exact (labels_perm h₁).trans (ho ▸ (labels_perm h₂).symm)

end Metric
end MetricPaths
