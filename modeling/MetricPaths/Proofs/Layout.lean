import MetricPaths.Layout
import MetricPaths.Proofs.Metric
import MetricPaths.Proofs.Segment.Canonical

/-! Unique readability of default paths: in each layout the name and the labels can be
found again in what is written, so that two metrics share a path only if they are
the same mapping. Label names are not escaped, and each layout has characters that
they must not hold. -/
namespace MetricPaths
namespace Layout

/-- Whether a label name can be told from what stands around it. -/
def Admits : Layout → String → Prop
  | dotted, label => '.' ∉ label.toList
  | tagged, label => ';' ∉ label.toList ∧ '=' ∉ label.toList
  | braced, label => '=' ∉ label.toList

instance (l : Layout) (label : String) : Decidable (l.Admits label) := by
  cases l <;> unfold Admits <;> infer_instance

def tagOf (e : String × String) : Tag := (e.1.toList, Segment.escape e.2.toList)

theorem tagOf_injective {e f : String × String} (h : tagOf e = tagOf f) : e = f := by
  have hl := congrArg Prod.fst h
  have hv := Segment.escape_injective (congrArg Prod.snd h)
  exact Prod.ext (String.toList_inj.1 hl) (String.toList_inj.1 hv)

theorem dot_notMem_escape (value : List Char) : '.' ∉ Segment.escape value :=
  fun h => (Segment.printable_of_mem_escape h).2.2 (by decide)

theorem equals_notMem_escape (value : List Char) : '=' ∉ Segment.escape value :=
  fun h => (Segment.printable_of_mem_escape h).2.2 (by decide)

theorem forall_tagOf (P Q : List Char → Prop) {labels : List (String × String)}
    (hP : ∀ e ∈ labels, P e.1.toList) (hQ : ∀ value, Q (Segment.escape value)) :
    ∀ t ∈ labels.map tagOf, P t.1 ∧ Q t.2 := by
  intro t ht
  obtain ⟨e, he, rfl⟩ := List.mem_map.1 ht
  exact ⟨hP e he, hQ _⟩

theorem append_cons_inj {c : Char} {a b r s : List Char} (ha : c ∉ a) (hb : c ∉ b)
    (h : a ++ c :: r = b ++ c :: s) : a = b ∧ r = s := by
  induction a generalizing b with
  | nil =>
    cases b with
    | nil => exact ⟨rfl, (List.cons.inj h).2⟩
    | cons d b => exact absurd (List.cons.inj h).1 fun he => hb (by simp [he])
  | cons d a ih =>
    cases b with
    | nil => exact absurd (List.cons.inj h).1 fun he => ha (by simp [he])
    | cons e b =>
      obtain ⟨rfl, ht⟩ := List.cons.inj h
      obtain ⟨rfl, rfl⟩ := ih (fun hm => ha (by simp [hm])) (fun hm => hb (by simp [hm])) ht
      exact ⟨rfl, rfl⟩

theorem append_cons_inj_last {c : Char} {a b r s : List Char} (hr : c ∉ r) (hs : c ∉ s)
    (h : a ++ c :: r = b ++ c :: s) : a = b ∧ r = s := by
  have hrev := congrArg List.reverse h
  simp only [List.reverse_append, List.reverse_cons, List.append_assoc,
    List.singleton_append] at hrev
  obtain ⟨h₁, h₂⟩ := append_cons_inj (by simpa using hr) (by simpa using hs) hrev
  exact ⟨List.reverse_inj.1 h₂, List.reverse_inj.1 h₁⟩

/-- The same for a character with a role in the tagged layouts, where only the bare
occurrences count. -/
theorem append_cons_inj_of_guarded {c : Char} {a b r s : List Char}
    (hc : c ∈ Segment.backslashEscaped) (hq : c ≠ '\\') (ha : Segment.Guarded a)
    (hb : Segment.Guarded b) (h : a ++ c :: r = b ++ c :: s) : a = b ∧ r = s := by
  induction ha generalizing b with
  | nil =>
    cases hb with
    | nil => exact ⟨rfl, (List.cons.inj h).2⟩
    | plain hd _ => exact absurd hc ((List.cons.inj h).1 ▸ hd)
    | behind _ _ => exact absurd (List.cons.inj h).1 hq
  | plain hd _ ih =>
    cases hb with
    | nil => exact absurd hc ((List.cons.inj h).1 ▸ hd)
    | plain _ hb =>
      obtain ⟨rfl, ht⟩ := List.cons.inj h
      obtain ⟨rfl, rfl⟩ := ih hb ht
      exact ⟨rfl, rfl⟩
    | behind _ _ => exact absurd (by decide) ((List.cons.inj h).1 ▸ hd)
  | behind _ _ ih =>
    cases hb with
    | nil => exact absurd (List.cons.inj h).1.symm hq
    | plain hd _ => exact absurd (by decide) ((List.cons.inj h).1 ▸ hd)
    | behind _ hb =>
      obtain ⟨rfl, ht⟩ := List.cons.inj (List.cons.inj h).2
      obtain ⟨rfl, rfl⟩ := ih hb ht
      exact ⟨rfl, rfl⟩

theorem dotted_inj {name name' : List Char} {tags tags' : List Tag}
    (hn : '.' ∉ name) (hn' : '.' ∉ name') (ht : ∀ t ∈ tags, '.' ∉ t.1 ∧ '.' ∉ t.2)
    (ht' : ∀ t ∈ tags', '.' ∉ t.1 ∧ '.' ∉ t.2)
    (h : name ++ tags.flatMap dottedTag = name' ++ tags'.flatMap dottedTag) :
    name = name' ∧ tags = tags' := by
  induction tags generalizing name name' tags' with
  | nil =>
    rw [List.flatMap_nil, List.append_nil] at h
    cases tags' with
    | nil => exact ⟨by simpa using h, rfl⟩
    | cons t' rest' => exact absurd (by simp [h, dottedTag]) hn
  | cons t rest ih =>
    cases tags' with
    | nil =>
      rw [List.flatMap_nil, List.append_nil] at h
      exact absurd (by simp [← h, dottedTag]) hn'
    | cons t' rest' =>
      obtain ⟨⟨hl, hv⟩, hrest⟩ := List.forall_mem_cons.1 ht
      obtain ⟨⟨hl', hv'⟩, hrest'⟩ := List.forall_mem_cons.1 ht'
      simp only [List.flatMap_cons, dottedTag, List.append_assoc, List.cons_append] at h
      obtain ⟨en, h₁⟩ := append_cons_inj hn hn' h
      obtain ⟨el, h₂⟩ := append_cons_inj hl hl' h₁
      obtain ⟨ev, er⟩ := ih hv hv' hrest hrest' h₂
      exact ⟨en, by rw [Prod.ext el ev, er]⟩

/-- Values may hold semicolons. There is one equals sign for each label, and the last
semicolon in front of it begins the label. -/
theorem tagged_inj {name name' : List Char} {tags tags' : List Tag}
    (hn : '=' ∉ name) (hn' : '=' ∉ name')
    (ht : ∀ t ∈ tags, (';' ∉ t.1 ∧ '=' ∉ t.1) ∧ '=' ∉ t.2)
    (ht' : ∀ t ∈ tags', (';' ∉ t.1 ∧ '=' ∉ t.1) ∧ '=' ∉ t.2)
    (h : name ++ tags.flatMap taggedTag = name' ++ tags'.flatMap taggedTag) :
    name = name' ∧ tags = tags' := by
  induction tags generalizing name name' tags' with
  | nil =>
    rw [List.flatMap_nil, List.append_nil] at h
    cases tags' with
    | nil => exact ⟨by simpa using h, rfl⟩
    | cons t' rest' => exact absurd (by simp [h, taggedTag]) hn
  | cons t rest ih =>
    cases tags' with
    | nil =>
      rw [List.flatMap_nil, List.append_nil] at h
      exact absurd (by simp [← h, taggedTag]) hn'
    | cons t' rest' =>
      obtain ⟨⟨⟨hs, hl⟩, hv⟩, hrest⟩ := List.forall_mem_cons.1 ht
      obtain ⟨⟨⟨hs', hl'⟩, hv'⟩, hrest'⟩ := List.forall_mem_cons.1 ht'
      -- The first equals sign comes first: up to there the wanted semicolon is the last.
      have regroup (n r : List Char) (t : Tag) :
          n ++ (taggedTag t ++ r) = (n ++ ';' :: t.1) ++ '=' :: (t.2 ++ r) := by
        simp [taggedTag]
      rw [List.flatMap_cons, List.flatMap_cons, regroup, regroup] at h
      obtain ⟨h₁, h₂⟩ := append_cons_inj (by simp [hn, hl]) (by simp [hn', hl']) h
      obtain ⟨en, el⟩ := append_cons_inj_last hs hs' h₁
      obtain ⟨ev, er⟩ := ih hv hv' hrest hrest' h₂
      exact ⟨en, by rw [Prod.ext el ev, er]⟩

/-- What stands behind the quoted value of a label in the braced layout. -/
def behindValue : List Tag → List Char
  | [] => ['\x7d']
  | tags => ',' :: commas (tags.map bracedTag) ++ ['\x7d']

theorem commas_cons (t : Tag) (rest : List Tag) :
    commas ((t :: rest).map bracedTag) ++ ['\x7d'] =
      t.1 ++ '=' :: '"' :: (t.2 ++ '"' :: behindValue rest) := by
  cases rest <;> simp [commas, bracedTag, behindValue]

theorem of_behindValue {rest rest' : List Tag} (h : behindValue rest = behindValue rest') :
    commas (rest.map bracedTag) ++ ['\x7d'] = commas (rest'.map bracedTag) ++ ['\x7d'] := by
  cases rest with
  | nil =>
    cases rest' with
    | nil => rfl
    | cons u us => exact absurd (List.cons.inj h).1 (by decide)
  | cons u us =>
    cases rest' with
    | nil => exact absurd (List.cons.inj h).1 (by decide)
    | cons u' us' => exact (List.cons.inj h).2

/-- A value ends at its first bare quote, and what stands behind that quote says
whether another label comes. -/
theorem braced_inj {tags tags' : List Tag}
    (ht : ∀ t ∈ tags, '=' ∉ t.1 ∧ Segment.Guarded t.2)
    (ht' : ∀ t ∈ tags', '=' ∉ t.1 ∧ Segment.Guarded t.2)
    (h : commas (tags.map bracedTag) ++ ['\x7d'] = commas (tags'.map bracedTag) ++ ['\x7d']) :
    tags = tags' := by
  -- Every label has an equals sign, so none is there only if no label is.
  have none : '=' ∉ commas (([] : List Tag).map bracedTag) ++ ['\x7d'] := by decide
  induction tags generalizing tags' with
  | nil =>
    cases tags' with
    | nil => rfl
    | cons t' rest' =>
      rw [h, commas_cons] at none
      exact absurd (by simp) none
  | cons t rest ih =>
    cases tags' with
    | nil =>
      rw [← h, commas_cons] at none
      exact absurd (by simp) none
    | cons t' rest' =>
      obtain ⟨⟨hl, hv⟩, hrest⟩ := List.forall_mem_cons.1 ht
      obtain ⟨⟨hl', hv'⟩, hrest'⟩ := List.forall_mem_cons.1 ht'
      rw [commas_cons, commas_cons] at h
      obtain ⟨el, h₁⟩ := append_cons_inj hl hl' h
      obtain ⟨ev, h₂⟩ := append_cons_inj_of_guarded (by decide) (by decide) hv hv'
        (List.cons.inj h₁).2
      rw [Prod.ext el ev, ih hrest hrest' (of_behindValue h₂)]

/-- What is written determines the name and the labels. -/
theorem write_inj (l : Layout) {name name' : List Char} {labels labels' : List (String × String)}
    (hl : ∀ e ∈ labels, l.Admits e.1) (hl' : ∀ e ∈ labels', l.Admits e.1)
    (h : l.write (Segment.escape name) (labels.map tagOf) =
      l.write (Segment.escape name') (labels'.map tagOf)) : name = name' ∧ labels = labels' := by
  have hinj : Segment.escape name = Segment.escape name' ∧ labels.map tagOf = labels'.map tagOf := by
    cases l with
    | dotted =>
      have free {es : List (String × String)} (he : ∀ e ∈ es, dotted.Admits e.1) :
          ∀ t ∈ es.map tagOf, '.' ∉ t.1 ∧ '.' ∉ t.2 :=
        forall_tagOf ('.' ∉ ·) ('.' ∉ ·) he dot_notMem_escape
      exact dotted_inj (dot_notMem_escape _) (dot_notMem_escape _) (free hl) (free hl') h
    | tagged =>
      have free {es : List (String × String)} (he : ∀ e ∈ es, tagged.Admits e.1) :
          ∀ t ∈ es.map tagOf, (';' ∉ t.1 ∧ '=' ∉ t.1) ∧ '=' ∉ t.2 :=
        forall_tagOf (fun l => ';' ∉ l ∧ '=' ∉ l) ('=' ∉ ·) he equals_notMem_escape
      exact tagged_inj (equals_notMem_escape _) (equals_notMem_escape _) (free hl) (free hl') h
    | braced =>
      have free {es : List (String × String)} (he : ∀ e ∈ es, braced.Admits e.1) :
          ∀ t ∈ es.map tagOf, '=' ∉ t.1 ∧ Segment.Guarded t.2 :=
        forall_tagOf ('=' ∉ ·) Segment.Guarded he Segment.guarded_escape
      simp only [write, List.append_assoc, List.cons_append] at h
      obtain ⟨hn, h⟩ := append_cons_inj_of_guarded (by decide) (by decide)
        (Segment.guarded_escape name) (Segment.guarded_escape name') h
      exact ⟨hn, braced_inj (free hl) (free hl') h⟩
  exact ⟨Segment.escape_injective hinj.1,
    (List.map_inj_right fun _ _ => tagOf_injective).1 hinj.2⟩

end Layout

namespace Metric
open Layout

theorem tags_eq (m : Metric) : m.tags = m.others.map tagOf := by
  simp [tags, others, tagOf]

theorem defaultPath_of_name {m : Metric} {name : String} (h : m.name? = some name) (l : Layout)
    (lead : String) : m.defaultPath (.layout l) lead =
      .ok (lead ++ String.ofList (l.write (Segment.escape name.toList) (m.others.map tagOf))) := by
  rw [defaultPath, h, tags_eq]

/-- Two metrics with a name share a path of a layout exactly if they are the same
mapping, provided that the layout can hold their label names. Values and names can
be any texts. -/
theorem defaultPath_eq_iff_sameLabels (l : Layout) (lead : String) (m₁ m₂ : Metric)
    (named₁ : m₁.name?.isSome) (named₂ : m₂.name?.isSome)
    (admits₁ : ∀ label ∈ m₁.names, label ≠ nameLabel → l.Admits label)
    (admits₂ : ∀ label ∈ m₂.names, label ≠ nameLabel → l.Admits label) :
    ∃ p₁ p₂, m₁.defaultPath (.layout l) lead = .ok p₁ ∧
      m₂.defaultPath (.layout l) lead = .ok p₂ ∧ (p₁ = p₂ ↔ m₁.SameLabels m₂) := by
  obtain ⟨n₁, h₁⟩ := Option.isSome_iff_exists.1 named₁
  obtain ⟨n₂, h₂⟩ := Option.isSome_iff_exists.1 named₂
  have admitted {m : Metric} (admits : ∀ label ∈ m.names, label ≠ nameLabel → l.Admits label) :
      ∀ e ∈ m.others, l.Admits e.1 := by
    intro e he
    obtain ⟨hm, hn⟩ := mem_others.1 he
    exact admits e.1 (mem_names_iff.2 ⟨e.2, hm⟩) hn
  refine ⟨_, _, defaultPath_of_name h₁ l lead, defaultPath_of_name h₂ l lead, ?_⟩
  rw [sameLabels_iff_others h₁ h₂]
  constructor
  · intro h
    have hw := congrArg String.toList h
    simp only [String.toList_append, String.toList_ofList, List.append_right_inj] at hw
    obtain ⟨hn, ho⟩ := write_inj l (admitted admits₁) (admitted admits₂) hw
    exact ⟨String.toList_inj.1 hn, ho⟩
  · rintro ⟨rfl, ho⟩
    rw [ho]

/-- A semicolon in a value does not begin another label. -/
theorem defaultPath_semicolon :
    ∃ p₁ p₂, (ofList [(nameLabel, "up"), ("job", "a;b")]).defaultPath (.layout .tagged) "p." = .ok p₁ ∧
      (ofList [("job", "a"), (nameLabel, "up"), ("b", "")]).defaultPath (.layout .tagged) "p." =
        .ok p₂ ∧
      (p₁ = p₂ ↔ (ofList [(nameLabel, "up"), ("job", "a;b")]).SameLabels
        (ofList [("job", "a"), (nameLabel, "up"), ("b", "")])) :=
  defaultPath_eq_iff_sameLabels .tagged "p." _ _ (by decide) (by decide) (by decide) (by decide)

end Metric
end MetricPaths
