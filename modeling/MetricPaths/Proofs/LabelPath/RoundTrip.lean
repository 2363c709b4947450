import MetricPaths.Proofs.LabelPath.Reading

/-! Dotted paths are read back. The labels of a metric come back in the order of their
names, behind the metric's own name, and make the same metric again, whatever the lead
and however many dots follow it. Only a metric with an empty name is lost in the dots. -/
namespace MetricPaths

namespace Segment

theorem escape_ne_nil {value : List Char} (h : value ≠ []) : escape value ≠ [] :=
  fun he => h (escape_injective (t := []) he)

end Segment

namespace LabelPath
open Layout (dottedTag tagOf)

def dots (k : Nat) : String := String.ofList (List.replicate k '.')

theorem tagOf_dotFree {labels : List (String × String)}
    (h : ∀ e ∈ labels, '.' ∉ e.1.toList) : ∀ t ∈ labels.map tagOf, '.' ∉ t.1 ∧ '.' ∉ t.2 :=
  Layout.forall_tagOf ('.' ∉ ·) ('.' ∉ ·) h Layout.dot_notMem_escape

theorem head?_append_ne_dot {a : List Char} (rest : List Char) (hne : a ≠ []) (hd : '.' ∉ a) :
    (a ++ rest).head? ≠ some '.' := by
  cases a with
  | nil => exact absurd rfl hne
  | cons c a =>
    intro h
    rw [List.cons_append, List.head?_cons, Option.some.injEq] at h
    exact hd (by simp [h])

theorem afterLead?_path (lead : String) (k : Nat) (written : List Char) :
    afterLead? lead.toList (lead ++ dots k ++ String.ofList written).toList =
      some (List.replicate k '.' ++ written) := by
  simp [dots, List.append_assoc]

theorem labels_dotted (lead : String) (k : Nat) {name : String}
    {others : List (String × String)} (hname : name ≠ "")
    (hdots : ∀ e ∈ others, '.' ∉ e.1.toList) :
    labels (lead ++ dots k ++ String.ofList
      (Segment.escape name.toList ++ (others.map tagOf).flatMap dottedTag)) lead =
      .ok ((nameLabel, name) :: others) := by
  have hne : Segment.escape name.toList ≠ [] :=
    Segment.escape_ne_nil fun h => hname (String.toList_inj.1 h)
  have heven : ¬ ((others.map tagOf).flatMap pieces).length % 2 = 1 := by
    rw [length_flatMap_pieces]; omega
  rw [labels, afterLead?_path]
  simp only [dropWhile_dots k (head?_append_ne_dot _ hne (Layout.dot_notMem_escape _)),
    segments_dotted (Layout.dot_notMem_escape _) (tagOf_dotFree hdots), List.isEmpty_iff,
    if_neg hne, if_neg heven, decodeSegment_escape, pairs_tagOf]
  rfl

/-- Behind an empty name, the dot of the first label is taken for one of the lead, and
the name of that label for the metric's. -/
theorem labels_dotted_nameless (lead : String) (k : Nat) {others : List (String × String)}
    (hdots : ∀ e ∈ others, '.' ∉ e.1.toList) (hne : ∀ e ∈ others, e.1 ≠ "") :
    ∃ fault, labels (lead ++ dots k ++ String.ofList
      (Segment.escape "".toList ++ (others.map tagOf).flatMap dottedTag)) lead = .error fault := by
  have hnil : Segment.escape "".toList = [] := rfl
  rw [labels, afterLead?_path, hnil, List.nil_append]
  cases others with
  | nil =>
    have hd : (List.replicate k '.').dropWhile (· = '.') = [] := by simp
    simp only [List.map_nil, List.flatMap_nil, List.append_nil, hd]
    exact ⟨_, rfl⟩
  | cons e rest =>
    obtain ⟨label, value⟩ := e
    obtain ⟨hl, hrest⟩ := List.forall_mem_cons.1 hdots
    have hlabel : label.toList ≠ [] := fun h =>
      (List.forall_mem_cons.1 hne).1 (String.toList_inj.1 h)
    have hshape : List.replicate k '.' ++ (((label, value) :: rest).map tagOf).flatMap dottedTag =
        List.replicate (k + 1) '.' ++ (label.toList ++ '.' :: (Segment.escape value.toList ++
          (rest.map tagOf).flatMap dottedTag)) := by
      simp [dottedTag, tagOf, List.replicate_succ']
    -- The name of the first label is taken away, so that its value has no partner.
    have hodd : (Segment.escape value.toList :: (rest.map tagOf).flatMap pieces).length % 2 = 1 := by
      rw [List.length_cons, length_flatMap_pieces]; omega
    rw [hshape]
    simp only [dropWhile_dots (k + 1) (head?_append_ne_dot _ hlabel hl), segments_append_cons hl,
      segments_dotted (Layout.dot_notMem_escape _) (tagOf_dotFree hrest), List.isEmpty_iff,
      if_neg hlabel, if_pos hodd]
    exact ⟨_, rfl⟩

theorem Fault.kind_failure (fault : Fault) : fault.failure.kind = .format := by
  cases fault with
  | segment piece fault => cases fault <;> rfl
  | lead | noName | oddSegments | duplicate => rfl

theorem metric_of_labels {path lead : String} {found : List (String × String)}
    (h : labels path lead = .ok found) (distinct : (found.map Prod.fst).Nodup) :
    ∃ m, metric path lead = .ok m ∧ m.labels = found := by
  have fresh : (Metric.empty.names ++ found.map Prod.fst).Nodup := by
    simpa [Metric.names, Metric.empty] using distinct
  obtain ⟨m, hm, hl⟩ := addAll_of_nodup path fresh
  refine ⟨m, ?_, by simpa [Metric.empty] using hl⟩
  rw [metric, h]
  exact hm

theorem metric_of_labels_error {path lead : String} {fault : Fault}
    (h : labels path lead = .error fault) : metric path lead = .error fault := by
  rw [metric, h]
  rfl

/-- The dotted path of a metric is read back behind any lead and any number of dots: the
name comes first and the other labels in the order of their names. A metric with
an empty name is refused, unless another label name is empty too. -/
theorem dotted_roundTrip (m : Metric) (name lead : String) (k : Nat) (named : m.name? = some name)
    (dotFree : ∀ label ∈ m.names, label ≠ nameLabel → '.' ∉ label.toList) :
    ∃ path, m.defaultPath (.layout .dotted) (lead ++ dots k) = .ok path ∧
      (name ≠ "" → ∃ others m', labels path lead = .ok ((nameLabel, name) :: others) ∧
        others.Perm (m.labels.filter (·.1 ≠ nameLabel)) ∧ others.Pairwise (·.1 < ·.1) ∧
        metric path lead = .ok m' ∧ m'.SameLabels m) ∧
      (name = "" → (∀ label ∈ m.names, label ≠ "") → ∃ fault,
        labels path lead = .error fault ∧ metric path lead = .error fault ∧
        fault.failure.kind = .format) := by
  have hdots : ∀ e ∈ m.others, '.' ∉ e.1.toList := by
    intro e he
    obtain ⟨hm, hn⟩ := Metric.mem_others.1 he
    exact dotFree e.1 (Metric.mem_names_iff.2 ⟨e.2, hm⟩) hn
  refine ⟨_, Metric.defaultPath_of_name named .dotted _, fun hname => ?_, fun hname hne => ?_⟩
  · have hlabels := labels_dotted lead k hname hdots
    have distinct : (((nameLabel, name) :: m.others).map Prod.fst).Nodup :=
      ((Metric.labels_perm named).map Prod.fst).nodup_iff.1 m.distinct
    obtain ⟨m', hm', hl⟩ := metric_of_labels hlabels distinct
    refine ⟨m.others, m', hlabels, m.others_perm, m.pairwise_lt_others, hm', ?_⟩
    rw [Metric.sameLabels_iff_perm, hl]
    exact (Metric.labels_perm named).symm
  · subst hname
    have hother : ∀ e ∈ m.others, e.1 ≠ "" := fun e he =>
      hne e.1 (Metric.mem_names_iff.2 ⟨e.2, (Metric.mem_others.1 he).1⟩)
    obtain ⟨fault, hf⟩ := labels_dotted_nameless lead k hdots hother
    exact ⟨fault, hf, metric_of_labels_error hf, fault.kind_failure⟩

def sample : Metric := .ofList [("b", "x.y/ö"), (nameLabel, "up"), ("%\\", ""), ("", "\"")]

theorem dotted_roundTrip_sample : ∃ path others m',
    sample.defaultPath (.layout .dotted) ("p." ++ dots 2) = .ok path ∧
      labels path "p." = .ok ((nameLabel, "up") :: others) ∧ metric path "p." = .ok m' ∧
      m'.SameLabels sample := by
  obtain ⟨path, hp, hread, -⟩ := dotted_roundTrip sample "up" "p." 2 (by decide) (by decide)
  obtain ⟨others, m', hl, -, -, hm, hs⟩ := hread (by decide)
  exact ⟨path, others, m', hp, hl, hm, hs⟩

end LabelPath
end MetricPaths
