import MetricPaths.LabelPath
import MetricPaths.Proofs.Layout

/-! How a path is taken apart: the lead and the dots behind it, the segments between
dots, the labels that they are paired to, and the metric that these are put into. -/
namespace MetricPaths

namespace Metric

theorem putIn_of_notMem {name value : String} {labels : List (String × String)}
    (h : name ∉ labels.map Prod.fst) : putIn name value labels = labels ++ [(name, value)] := by
  induction labels with
  | nil => rfl
  | cons e rest ih =>
    rw [List.map_cons, List.mem_cons, not_or] at h
    rw [putIn, if_neg (Ne.symm h.1), ih h.2]
    rfl

theorem labels_insert_of_notMem {m : Metric} {name : String} (value : String)
    (h : name ∉ m.names) : (m.insert name value).labels = m.labels ++ [(name, value)] :=
  putIn_of_notMem h

theorem notMem_of_nodup {names : List String} {e : String × String}
    {labels : List (String × String)} (h : (names ++ (e :: labels).map Prod.fst).Nodup) :
    e.1 ∉ names := by
  rw [List.nodup_append] at h
  exact fun hm => h.2.2 e.1 hm e.1 (by simp) rfl

theorem names_insert_of_notMem {m : Metric} {name : String} (value : String) (h : name ∉ m.names) :
    (m.insert name value).names = m.names ++ [name] := by
  rw [names, labels_insert_of_notMem value h, List.map_append]
  rfl

end Metric

namespace LabelPath

@[simp] theorem afterLead?_append (lead rest : List Char) :
    afterLead? lead (lead ++ rest) = some rest := by
  induction lead with
  | nil => cases rest <;> rfl
  | cons c lead ih => simpa [afterLead?] using ih

theorem afterLead?_eq_some_iff {lead path rest : List Char} :
    afterLead? lead path = some rest ↔ path = lead ++ rest := by
  constructor
  · intro h
    induction lead generalizing path with
    | nil =>
      rw [afterLead?, Option.some.injEq] at h
      exact h
    | cons c lead ih =>
      cases path with
      | nil => cases h
      | cons d path =>
        rw [afterLead?] at h
        split at h
        · next he => rw [he, ih h, List.cons_append]
        · cases h
  · rintro rfl
    exact afterLead?_append lead rest

theorem segments_of_notMem {a : List Char} (h : '.' ∉ a) : segments a = [a] := by
  induction a with
  | nil => rfl
  | cons c a ih =>
    rw [List.mem_cons, not_or] at h
    rw [segments, if_neg (Ne.symm h.1), ih h.2]

theorem segments_append_cons {a : List Char} (h : '.' ∉ a) (rest : List Char) :
    segments (a ++ '.' :: rest) = a :: segments rest := by
  induction a with
  | nil => rfl
  | cons c a ih =>
    rw [List.mem_cons, not_or] at h
    rw [List.cons_append, segments, if_neg (Ne.symm h.1), ih h.2]

/-- No dot is left in a piece, and with the dots between them the pieces are the whole. -/
theorem exists_segments (s : List Char) : ∃ a rest, segments s = a :: rest ∧ '.' ∉ a ∧
    (∀ b ∈ rest, '.' ∉ b) ∧ s = a ++ rest.flatMap ('.' :: ·) := by
  induction s with
  | nil => exact ⟨[], [], rfl, by simp⟩
  | cons c s ih =>
    obtain ⟨a, rest, hs, ha, hrest, he⟩ := ih
    by_cases hc : c = '.'
    · refine ⟨[], a :: rest, by rw [segments, if_pos hc, hs], by simp, ?_, ?_⟩
      · exact List.forall_mem_cons.2 ⟨ha, hrest⟩
      · rw [hc, he]
        rfl
    · refine ⟨c :: a, rest, by rw [segments, if_neg hc, hs], ?_, hrest, ?_⟩
      · exact List.not_mem_cons_of_ne_of_not_mem (Ne.symm hc) ha
      · rw [he]
        rfl

def pieces (t : Layout.Tag) : List (List Char) := [t.1, t.2]

theorem segments_dotted {a : List Char} {tags : List Layout.Tag} (ha : '.' ∉ a)
    (ht : ∀ t ∈ tags, '.' ∉ t.1 ∧ '.' ∉ t.2) :
    segments (a ++ tags.flatMap Layout.dottedTag) = a :: tags.flatMap pieces := by
  induction tags generalizing a with
  | nil => simpa using segments_of_notMem ha
  | cons t rest ih =>
    obtain ⟨⟨hl, hv⟩, hrest⟩ := List.forall_mem_cons.1 ht
    simp only [List.flatMap_cons, Layout.dottedTag, List.append_assoc, List.cons_append]
    rw [segments_append_cons ha, segments_append_cons hl, ih hv hrest]
    rfl

theorem length_flatMap_pieces (tags : List Layout.Tag) :
    (tags.flatMap pieces).length = 2 * tags.length := by
  induction tags with
  | nil => rfl
  | cons t rest ih =>
    rw [List.flatMap_cons, List.length_append, ih, List.length_cons]
    show 2 + 2 * rest.length = _
    omega

theorem exists_pieces : ∀ {rest : List (List Char)}, rest.length % 2 = 0 →
    ∃ tags : List Layout.Tag, rest = tags.flatMap pieces
  | [], _ => ⟨[], rfl⟩
  | [_], h => absurd h Nat.one_ne_zero
  | label :: value :: rest, h => by
    have even : rest.length % 2 = 0 := by
      rw [List.length_cons, List.length_cons] at h
      omega
    obtain ⟨tags, rfl⟩ := exists_pieces even
    exact ⟨(label, value) :: tags, rfl⟩

theorem flatMap_pieces_dots (tags : List Layout.Tag) :
    (tags.flatMap pieces).flatMap ('.' :: ·) = tags.flatMap Layout.dottedTag := by
  induction tags with
  | nil => rfl
  | cons t rest ih => simp [pieces, Layout.dottedTag, ih]

theorem dropWhile_dots (k : Nat) {rest : List Char} (h : rest.head? ≠ some '.') :
    (List.replicate k '.' ++ rest).dropWhile (· = '.') = rest := by
  induction k with
  | zero =>
    cases rest with
    | nil => rfl
    | cons c rest =>
      have hc : c ≠ '.' := fun he => h (by rw [he]; rfl)
      simp [hc]
  | succ k ih => simpa [List.replicate_succ] using ih

theorem exists_replicate_dots (s : List Char) :
    ∃ k, s = List.replicate k '.' ++ s.dropWhile (· = '.') := by
  refine ⟨(s.takeWhile (· = '.')).length, ?_⟩
  have all : ∀ c ∈ s.takeWhile (· = '.'), c = '.' := fun c hc => by
    simpa using (List.all_eq_true.1 List.all_takeWhile) c hc
  rw [← List.eq_replicate_of_mem all, List.takeWhile_append_dropWhile]

@[simp] theorem decodeSegment_escape (s : String) :
    decodeSegment (Segment.escape s.toList) = .ok s := by
  simp [decodeSegment]

theorem pairs_tagOf (labels : List (String × String)) :
    pairs ((labels.map Layout.tagOf).flatMap pieces) = .ok labels := by
  induction labels with
  | nil => rfl
  | cons e rest ih =>
    obtain ⟨label, value⟩ := e
    simp only [List.map_cons, List.flatMap_cons, Layout.tagOf, pieces, List.cons_append,
      List.nil_append] at ih ⊢
    rw [pairs, decodeSegment_escape, ih, String.ofList_toList]
    rfl

/-- A written label as it is read: the name stands as it is. -/
def readTag (t : Layout.Tag) : Except Fault (String × String) :=
  (decodeSegment t.2).map (String.ofList t.1, ·)

theorem pairs_pieces (tags : List Layout.Tag) : pairs (tags.flatMap pieces) = tags.mapM readTag := by
  induction tags with
  | nil => rfl
  | cons t rest ih =>
    simp only [List.flatMap_cons, pieces, List.cons_append, List.nil_append] at ih ⊢
    rw [pairs, ih, List.mapM_cons, readTag]
    cases decodeSegment t.2 <;> rfl

theorem addAll_of_nodup (path : String) {m : Metric} {labels : List (String × String)}
    (h : (m.names ++ labels.map Prod.fst).Nodup) :
    ∃ m', addAll path m labels = .ok m' ∧ m'.labels = m.labels ++ labels := by
  induction labels generalizing m with
  | nil => exact ⟨m, rfl, by simp⟩
  | cons e rest ih =>
    obtain ⟨label, value⟩ := e
    have fresh : label ∉ m.names := Metric.notMem_of_nodup h
    have names := Metric.names_insert_of_notMem value fresh
    obtain ⟨m', hm', hl⟩ := ih (m := m.insert label value) (by simpa [names] using h)
    refine ⟨m', ?_, ?_⟩
    · rw [addAll, if_neg fresh, hm']
    · rw [hl, Metric.labels_insert_of_notMem value fresh, List.append_assoc]
      rfl

theorem nodup_of_addAll {path : String} {m m' : Metric} {labels : List (String × String)}
    (h : addAll path m labels = .ok m') : (m.names ++ labels.map Prod.fst).Nodup := by
  induction labels generalizing m with
  | nil => simpa using m.nodup_names
  | cons e rest ih =>
    obtain ⟨label, value⟩ := e
    rw [addAll] at h
    split at h
    · cases h
    · next fresh =>
      simpa [Metric.names_insert_of_notMem value fresh] using ih h

end LabelPath
end MetricPaths
