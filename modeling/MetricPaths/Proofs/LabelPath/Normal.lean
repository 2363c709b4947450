import MetricPaths.Proofs.LabelPath.RoundTrip
import MetricPaths.Proofs.Except

/-! Paths of any origin. What can be read at all is a lead, dots, a name and labels between
dots; which of these paths make a metric; and when the path that is written for this metric is
the one that was read. -/
namespace MetricPaths

namespace Segment

theorem Token.bytes_ne_nil (t : Token) : t.bytes ≠ [] := by
  have char (c : Char) : Utf8.encodeChar c ≠ [] := by
    simp only [Utf8.encodeChar]
    split_ifs <;> exact List.cons_ne_nil _ _
  cases t with
  | percent b => exact List.cons_ne_nil b []
  | quoted c => exact char c
  | plain c => exact char c

theorem eq_nil_of_tokens {position : Nat} {segment : List Char}
    (h : tokens position segment = .ok []) : segment = [] := by
  revert h
  -- Each piece that is read stands in front of what is read behind it.
  fun_cases tokens position segment <;> simp [map_eq_ok_iff]

theorem eq_nil_of_unescape {segment : List Char} (h : unescape segment = .ok []) :
    segment = [] := by
  rw [unescape] at h
  cases ht : tokens 0 segment with
  | error fault =>
    rw [ht] at h
    cases h
  | ok ts =>
    simp only [ht] at h
    split at h
    · next hd =>
      cases h
      have bytes : ts.flatMap Token.bytes = [] := Utf8.decode_eq_ok_iff.1 hd
      rw [List.flatMap_eq_nil_iff] at bytes
      have none : ts = [] := List.eq_nil_iff_forall_not_mem.2 fun t hm => t.bytes_ne_nil (bytes t hm)
      exact eq_nil_of_tokens (none ▸ ht)
    · cases h

theorem canonical_iff_escape_eq {segment value : List Char} (h : unescape segment = .ok value) :
    Canonical segment ↔ segment = escape value := by
  rw [canonical_iff_exists_escape]
  constructor
  · rintro ⟨v, rfl⟩
    rw [unescape_escape, Except.ok.injEq] at h
    rw [h]
  · exact fun he => ⟨value, he.symm⟩

end Segment

namespace LabelPath
open Layout (Tag dottedTag tagOf)

/-- A path is a lead, dots, the segment of a name and those of labels. -/
structure Splits (path lead : String) (k : Nat) (name : List Char) (tags : List Tag) : Prop where
  path_eq : path = lead ++ dots k ++ String.ofList (name ++ tags.flatMap dottedTag)
  name_ne : name ≠ []
  name_dotFree : '.' ∉ name
  tags_dotFree : ∀ t ∈ tags, '.' ∉ t.1 ∧ '.' ∉ t.2

abbrev Reads (tags : List Tag) (others : List (String × String)) : Prop :=
  List.Forall₂ (fun t e => readTag t = .ok e) tags others

theorem mapM_readTag_eq_ok_iff {tags : List Tag} {others : List (String × String)} :
    tags.mapM readTag = .ok others ↔ Reads tags others := mapM_eq_ok_iff

theorem Splits.labels_eq {path lead : String} {k : Nat} {name : List Char} {tags : List Tag}
    (h : Splits path lead k name tags) : labels path lead = (do
      let value ← decodeSegment name
      let others ← tags.mapM readTag
      .ok ((nameLabel, value) :: others)) := by
  have heven : ¬ (tags.flatMap pieces).length % 2 = 1 := by
    rw [length_flatMap_pieces]; omega
  rw [labels, h.path_eq, afterLead?_path]
  simp only [dropWhile_dots k (head?_append_ne_dot _ h.name_ne h.name_dotFree),
    segments_dotted h.name_dotFree h.tags_dotFree, List.isEmpty_iff, if_neg h.name_ne,
    if_neg heven, pairs_pieces]

/-- Whatever is read is of this form. -/
theorem exists_splits {path lead : String} {found : List (String × String)}
    (h : labels path lead = .ok found) : ∃ k name tags, Splits path lead k name tags := by
  rw [labels] at h
  cases hl : afterLead? lead.toList path.toList with
  | none =>
    rw [hl] at h
    cases h
  | some rest =>
    obtain ⟨k, hk⟩ := exists_replicate_dots rest
    obtain ⟨name, others, hs, hname, hothers, hbody⟩ := exists_segments (rest.dropWhile (· = '.'))
    simp only [hl, hs] at h
    split at h
    · cases h
    · next hne =>
      split at h
      · cases h
      · next heven =>
        have even : others.length % 2 = 0 := by omega
        obtain ⟨tags, rfl⟩ := exists_pieces even
        refine ⟨k, name, tags, ?_, by simpa using hne, hname, fun t ht => ?_⟩
        · rw [← String.toList_inj, afterLead?_eq_some_iff.1 hl, hk, hbody, flatMap_pieces_dots]
          simp [dots]
        · exact ⟨hothers _ (List.mem_flatMap.2 ⟨t, ht, by simp [pieces]⟩),
            hothers _ (List.mem_flatMap.2 ⟨t, ht, by simp [pieces]⟩)⟩

theorem decodeSegment_eq_ok_iff {segment : List Char} {value : String} :
    decodeSegment segment = .ok value ↔ Segment.unescape segment = .ok value.toList := by
  rw [decodeSegment]
  cases Segment.unescape segment with
  | error fault => simp
  | ok v => simp [String.ext_iff]

theorem readTag_eq_ok_iff {t : Tag} {e : String × String} :
    readTag t = .ok e ↔ e.1 = String.ofList t.1 ∧ Segment.unescape t.2 = .ok e.2.toList := by
  rw [readTag, map_eq_ok_iff, ← decodeSegment_eq_ok_iff]
  constructor
  · rintro ⟨value, hv, rfl⟩
    exact ⟨rfl, hv⟩
  · rintro ⟨hl, hv⟩
    exact ⟨e.2, hv, Prod.ext hl.symm rfl⟩

theorem decodeSegment_ne_empty {segment : List Char} {value : String} (hne : segment ≠ [])
    (h : decodeSegment segment = .ok value) : value ≠ "" := by
  rintro rfl
  exact hne (Segment.eq_nil_of_unescape (decodeSegment_eq_ok_iff.1 h))

theorem labels_eq_ok_iff {path lead : String} {k : Nat} {name : List Char} {tags : List Tag}
    {found : List (String × String)} (h : Splits path lead k name tags) :
    labels path lead = .ok found ↔ ∃ value others, decodeSegment name = .ok value ∧
      Reads tags others ∧ found = (nameLabel, value) :: others := by
  simp only [h.labels_eq, bind_eq_ok_iff, mapM_readTag_eq_ok_iff, Except.ok.injEq]
  constructor
  · rintro ⟨value, hv, others, ho, rfl⟩
    exact ⟨value, others, hv, ho, rfl⟩
  · rintro ⟨value, others, hv, ho, rfl⟩
    exact ⟨value, hv, others, ho, rfl⟩

theorem metric_eq_ok_iff {path lead : String} {m : Metric} :
    metric path lead = .ok m ↔ labels path lead = .ok m.labels := by
  constructor
  · intro h
    rw [metric, bind_eq_ok_iff] at h
    obtain ⟨found, hf, ha⟩ := h
    have distinct : (Metric.empty.names ++ found.map Prod.fst).Nodup := nodup_of_addAll ha
    obtain ⟨m', ha', hl⟩ := addAll_of_nodup path distinct
    rw [ha, Except.ok.injEq] at ha'
    rw [ha', hl, hf]
    rfl
  · intro h
    obtain ⟨m', hm', hl⟩ := metric_of_labels h m.distinct
    cases m
    cases m'
    cases hl
    exact hm'

theorem exists_metric_iff {path lead : String} :
    (∃ m, metric path lead = .ok m) ↔
      ∃ found, labels path lead = .ok found ∧ (found.map Prod.fst).Nodup := by
  constructor
  · rintro ⟨m, h⟩
    exact ⟨m.labels, metric_eq_ok_iff.1 h, m.distinct⟩
  · rintro ⟨found, h, distinct⟩
    exact ⟨⟨found, distinct⟩, metric_eq_ok_iff.2 h⟩

theorem Splits.of_metric {path lead : String} {k : Nat} {name : List Char} {tags : List Tag}
    {m : Metric} (h : Splits path lead k name tags) (hm : metric path lead = .ok m) :
    ∃ value others, m.name? = some value ∧ value ≠ "" ∧
      Segment.unescape name = .ok value.toList ∧ Reads tags others ∧ others.Perm m.others := by
  obtain ⟨value, others, hv, ho, hl⟩ := (labels_eq_ok_iff h).1 (metric_eq_ok_iff.1 hm)
  have named : m.name? = some value := by
    rw [Metric.name?_eq_some_iff, hl]
    exact List.mem_cons_self
  have perm := Metric.labels_perm named
  rw [hl] at perm
  exact ⟨value, others, named, decodeSegment_ne_empty h.name_ne hv, decodeSegment_eq_ok_iff.1 hv,
    ho, perm.cons_inv⟩

theorem Reads.names_eq {tags : List Tag} {others : List (String × String)}
    (h : Reads tags others) :
    tags.map (fun t => String.ofList t.1) = others.map Prod.fst := by
  induction h with
  | nil => rfl
  | cons ht _ ih => rw [List.map_cons, List.map_cons, ih, (readTag_eq_ok_iff.1 ht).1]

/-- Labels are written as they were read exactly if their values were canonical. -/
theorem Reads.eq_map_tagOf_iff {tags : List Tag} {others : List (String × String)}
    (h : Reads tags others) :
    tags = others.map tagOf ↔ ∀ t ∈ tags, Segment.Canonical t.2 := by
  induction h with
  | nil => simp
  | @cons t e tags others ht _ ih =>
    obtain ⟨hl, hv⟩ := readTag_eq_ok_iff.1 ht
    have head : t = tagOf e ↔ Segment.Canonical t.2 := by
      rw [Segment.canonical_iff_escape_eq hv, Prod.ext_iff, tagOf, hl]
      simp
    rw [List.map_cons, List.cons.injEq, List.forall_mem_cons, head, ih]

theorem Reads.eq_of_tagOf {labels others : List (String × String)}
    (h : Reads (labels.map tagOf) others) : others = labels := by
  rw [← mapM_readTag_eq_ok_iff, ← pairs_pieces, pairs_tagOf] at h
  exact (Except.ok.inj h).symm

theorem Reads.dotFree {tags : List Tag} {others : List (String × String)}
    (h : Reads tags others) (free : ∀ t ∈ tags, '.' ∉ t.1 ∧ '.' ∉ t.2) : ∀ e ∈ others, '.' ∉ e.1.toList := by
  intro e he
  have hmem : e.1 ∈ tags.map fun t => String.ofList t.1 := by
    rw [h.names_eq]
    exact List.mem_map_of_mem he
  obtain ⟨t, ht, hl⟩ := List.mem_map.1 hmem
  rw [← hl, String.toList_ofList]
  exact (free t ht).1

theorem metric_of_written {m : Metric} {name : String} (lead : String)
    (named : m.name? = some name) (hname : name ≠ "")
    (hdots : ∀ e ∈ m.others, '.' ∉ e.1.toList) :
    ∃ m', metric (lead ++ String.ofList (Segment.escape name.toList ++
      (m.others.map tagOf).flatMap dottedTag)) lead = .ok m' ∧ m'.SameLabels m := by
  have perm := Metric.labels_perm named
  have distinct : (((nameLabel, name) :: m.others).map Prod.fst).Nodup :=
    (perm.map Prod.fst).nodup_iff.1 m.distinct
  have hlabels := labels_dotted lead 0 hname hdots
  rw [show dots 0 = "" from rfl, String.append_empty] at hlabels
  obtain ⟨m', hm', hl⟩ := metric_of_labels hlabels distinct
  exact ⟨m', hm', Metric.sameLabels_iff_perm.2 (hl ▸ perm.symm)⟩

/-- Behind one lead, a name and labels are written once: without dots in front of them. -/
theorem Splits.path_eq_iff {path lead value : String} {k : Nat} {name : List Char}
    {tags : List Tag} {others : List (String × String)} (h : Splits path lead k name tags)
    (hvalue : value ≠ "") (hdots : ∀ e ∈ others, '.' ∉ e.1.toList) :
    lead ++ String.ofList (Segment.escape value.toList ++ (others.map tagOf).flatMap dottedTag) =
      path ↔ k = 0 ∧ name = Segment.escape value.toList ∧ tags = others.map tagOf := by
  have hne : Segment.escape value.toList ≠ [] :=
    Segment.escape_ne_nil fun he => hvalue (String.toList_inj.1 he)
  rw [h.path_eq, ← String.toList_inj]
  simp only [dots, String.toList_append, String.toList_ofList, List.append_assoc,
    List.append_cancel_left_eq]
  constructor
  · intro he
    cases k with
    | zero =>
      obtain ⟨hn, ht⟩ := Layout.dotted_inj (Layout.dot_notMem_escape _) h.name_dotFree
        (tagOf_dotFree hdots) h.tags_dotFree he
      exact ⟨rfl, hn.symm, ht.symm⟩
    | succ k =>
      have first := head?_append_ne_dot ((others.map tagOf).flatMap dottedTag) hne
        (Layout.dot_notMem_escape _)
      rw [he] at first
      exact absurd rfl first
  · rintro ⟨rfl, rfl, rfl⟩
    rfl

/-- Which paths are metrics, and which are the paths of their metrics. A path is a metric
exactly if its labels can be read and their names, the metric's own included, are all
different; the metric's name is not empty then. The path that is written for it is read
as the same metric, and is the path that was read if and only if no dot stands behind the
lead, the label names are in code-point order, and the name and all values are canonical
segments. -/
theorem metric_normalises (path lead : String) :
    ((∃ m, metric path lead = .ok m) ↔
      ∃ found, labels path lead = .ok found ∧ (found.map Prod.fst).Nodup) ∧
    ∀ m, metric path lead = .ok m →
      (∃ name, m.name? = some name ∧ name ≠ "") ∧
      ∃ normal, m.defaultPath (.layout .dotted) lead = .ok normal ∧
        (∃ m', metric normal lead = .ok m' ∧ m'.SameLabels m) ∧
        (∃ k name tags, Splits path lead k name tags) ∧
        ∀ k name tags, Splits path lead k name tags →
          (normal = path ↔ k = 0 ∧ (tags.map fun t => String.ofList t.1).Pairwise (· < ·) ∧
            Segment.Canonical name ∧ ∀ t ∈ tags, Segment.Canonical t.2) := by
  refine ⟨exists_metric_iff, fun m hm => ?_⟩
  obtain ⟨k, name, tags, hs⟩ := exists_splits (metric_eq_ok_iff.1 hm)
  obtain ⟨value, others, named, hvalue, -, ho, perm⟩ := hs.of_metric hm
  have hdots : ∀ e ∈ m.others, '.' ∉ e.1.toList := fun e he =>
    ho.dotFree hs.tags_dotFree e (perm.mem_iff.2 he)
  refine ⟨⟨value, named, hvalue⟩, _, Metric.defaultPath_of_name named .dotted lead,
    metric_of_written lead named hvalue hdots, ⟨k, name, tags, hs⟩, ?_⟩
  intro k name tags hs
  obtain ⟨value', others, named', -, hname, ho, perm⟩ := hs.of_metric hm
  obtain rfl : value' = value := Option.some.inj (named'.symm.trans named)
  rw [Layout.write, hs.path_eq_iff hvalue hdots, ho.names_eq, ← ho.eq_map_tagOf_iff,
    Segment.canonical_iff_escape_eq hname]
  -- The labels that are written are those that were read, put in order.
  have sorted : (others.map Prod.fst).Pairwise (· < ·) ↔ others = m.others := by
    constructor
    · intro h
      exact List.Perm.eq_of_pairwise
        (fun _ _ _ _ hef hfe => absurd (Std.lt_trans hef hfe) Std.lt_irrefl)
        (List.pairwise_map.1 h) m.pairwise_lt_others perm
    · rintro rfl
      exact List.pairwise_map.2 m.pairwise_lt_others
  rw [sorted]
  constructor
  · rintro ⟨hk, hn, rfl⟩
    obtain rfl := ho.eq_of_tagOf
    exact ⟨hk, rfl, hn, rfl⟩
  · rintro ⟨hk, ho', hn, ht⟩
    exact ⟨hk, hn, ho' ▸ ht⟩

/-- With a dot too many, labels out of order and a value in lower-case digits, a path is read and
another one is written. -/
theorem metric_normalises_sample : ∃ m normal, metric "p..up.z.%7b.a.b" "p." = .ok m ∧
    m.defaultPath (.layout .dotted) "p." = .ok normal ∧ normal ≠ "p..up.z.%7b.a.b" ∧
    ∃ m', metric normal "p." = .ok m' ∧ m'.SameLabels m := by
  obtain ⟨readable, normalises⟩ := metric_normalises "p..up.z.%7b.a.b" "p."
  obtain ⟨m, hm⟩ := readable.2
    ⟨[(nameLabel, "up"), ("z", "\x7b"), ("a", "b")], rfl, by decide⟩
  obtain ⟨-, normal, hn, back, -, unchanged⟩ := normalises m hm
  have splits : Splits "p..up.z.%7b.a.b" "p." 1 "up".toList
      [("z".toList, "%7b".toList), ("a".toList, "b".toList)] :=
    ⟨by decide, by decide, by decide, by decide⟩
  refine ⟨m, normal, hm, hn, fun he => ?_, back⟩
  exact absurd ((unchanged _ _ _ splits).1 he).1 (by decide)

end LabelPath
end MetricPaths
