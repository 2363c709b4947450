import MetricPaths.Proofs.Layout

/-! Cutting tagged paths at semicolons. Escaping leaves a semicolon as it is, so the pieces
are the name and one label each exactly if no value has one. -/
namespace MetricPaths
namespace Segment

theorem semicolon_mem_encodeByte_iff {b : UInt8} : ';' ∈ encodeByte b ↔ b = 0x3B := by
  constructor
  · intro h
    have hb := b.toNat_lt
    unfold encodeByte at h
    cases hd : disposition b with
    | verbatim =>
      rw [hd, List.mem_singleton] at h
      have value : (';' : Char).toNat = b.toNat := by rw [h, toNat_ofNat_byte]
      exact UInt8.toNat_inj.1 value.symm
    | backslash =>
      simp only [hd, List.mem_cons, List.not_mem_nil, or_false] at h
      have escaped := disposition_eq_backslash_iff.1 hd
      rcases h with h | h
      · exact absurd h (by decide)
      · exact absurd (h ▸ escaped) (by decide)
    | percent =>
      simp only [hd, List.mem_cons, List.not_mem_nil, or_false] at h
      have high := hexDigit_mem (n := b.toNat / 16) (by omega)
      have low := hexDigit_mem (n := b.toNat % 16) (by omega)
      rcases h with h | h | h
      · exact absurd h (by decide)
      · exact absurd (h ▸ high) (by decide)
      · exact absurd (h ▸ low) (by decide)
  · rintro rfl
    decide

theorem semicolon_mem_encodeChar_iff {c : Char} : 0x3B ∈ Utf8.encodeChar c ↔ c = ';' := by
  constructor
  · intro h
    have valid : c.toNat < 0x110000 := by
      have : c.toNat < 0xD800 ∨ 0xDFFF < c.toNat ∧ c.toNat < 0x110000 := c.valid
      omega
    -- Only a character of one byte has a byte below 80.
    have byte {x : Nat} (range : x < 256) (h : 0x3B = UInt8.ofNat x) : x = 0x3B := by
      rw [← Utf8.toNat_byte range, ← h]
      rfl
    unfold Utf8.encodeChar at h
    dsimp only at h
    split_ifs at h with one two three
    · have hc := byte (by omega) (List.mem_singleton.1 h)
      rw [← Char.ofNat_toNat c, hc]
    · simp only [List.mem_cons, List.not_mem_nil, or_false] at h
      rcases h with h | h
      all_goals
        have := byte (by omega) h
        omega
    · simp only [List.mem_cons, List.not_mem_nil, or_false] at h
      rcases h with h | h | h
      all_goals
        have := byte (by omega) h
        omega
    · simp only [List.mem_cons, List.not_mem_nil, or_false] at h
      rcases h with h | h | h | h
      all_goals
        have := byte (by omega) h
        omega
  · rintro rfl
    decide

/-- A semicolon goes through escaping as it is, and nothing else becomes one. -/
theorem semicolon_mem_escape_iff {value : List Char} : ';' ∈ escape value ↔ ';' ∈ value := by
  simp only [escape, Utf8.encode, List.mem_flatMap, semicolon_mem_encodeByte_iff,
    exists_eq_right, semicolon_mem_encodeChar_iff]

end Segment

namespace Layout

def tagText (t : Tag) : List Char := t.1 ++ '=' :: t.2

theorem taggedTag_eq (t : Tag) : taggedTag t = ';' :: tagText t := rfl

theorem splitOn_tagged (name : List Char) (tags : List Tag) :
    (name ++ tags.flatMap taggedTag).splitOn ';' =
      name.splitOn ';' ++ tags.flatMap fun t => (tagText t).splitOn ';' := by
  induction tags generalizing name with
  | nil => simp
  | cons t rest ih =>
    rw [List.flatMap_cons, taggedTag_eq, List.cons_append, List.splitOn_append_cons_self, ih,
      List.flatMap_cons]

theorem notMem_of_mem_splitOn {c : Char} {s piece : List Char} (h : piece ∈ s.splitOn c) :
    c ∉ piece := by
  induction s generalizing piece with
  | nil =>
    rw [List.splitOn_nil, List.mem_singleton] at h
    simp [h]
  | cons d rest ih =>
    rw [List.splitOn_cons_eq_if_modifyHead] at h
    split_ifs at h with hd
    · rcases List.mem_cons.1 h with rfl | h
      · simp
      · exact ih h
    · cases hs : rest.splitOn c with
      | nil => exact absurd hs (List.splitOn_ne_nil c rest)
      | cons first others =>
        rw [hs, List.modifyHead_cons, List.mem_cons] at h
        rcases h with rfl | h
        · have absent := ih (hs ▸ List.mem_cons_self)
          simp only [beq_iff_eq] at hd
          simp [absent, Ne.symm hd]
        · exact ih (hs ▸ List.mem_cons_of_mem _ h)

theorem splitOn_tagged_eq_iff {name : List Char} {tags : List Tag} :
    (name ++ tags.flatMap taggedTag).splitOn ';' = name :: tags.map tagText ↔
      ';' ∉ name ∧ ∀ t ∈ tags, ';' ∉ tagText t := by
  constructor
  · intro h
    have uncut (piece : List Char) (hp : piece ∈ name :: tags.map tagText) : ';' ∉ piece :=
      notMem_of_mem_splitOn (h ▸ hp)
    exact ⟨uncut name List.mem_cons_self, fun t ht =>
      uncut _ (List.mem_cons_of_mem _ (List.mem_map_of_mem ht))⟩
  · rintro ⟨hname, htags⟩
    rw [splitOn_tagged, List.splitOn_eq_singleton hname, List.singleton_append, List.map_eq_flatMap]
    refine congrArg (name :: ·) (List.flatMap_congr fun t ht => ?_)
    exact List.splitOn_eq_singleton (htags t ht)

end Layout

namespace Metric
open Layout

theorem semicolon_mem_tagText_iff {e : String × String} (admits : tagged.Admits e.1) :
    ';' ∈ tagText (tagOf e) ↔ ';' ∈ e.2.toList := by
  simp [tagText, tagOf, admits.1, Segment.semicolon_mem_escape_iff]

theorem count_equals_tagText {e : String × String} (admits : tagged.Admits e.1) :
    (tagText (tagOf e)).count '=' = 1 := by
  have label : e.1.toList.count '=' = 0 := List.count_eq_zero.2 admits.2
  have value : (Segment.escape e.2.toList).count '=' = 0 :=
    List.count_eq_zero.2 (equals_notMem_escape _)
  simp [tagText, tagOf, label, value]

/-- What stands behind the lead of a tagged path is cut at its semicolons into the pieces of
the name and those of the labels, which come in ascending order and have one equals sign
each. The name and every label stay whole exactly if no value has a semicolon: one that has
begins a tag of its own. -/
theorem tagged_pieces_iff (m : Metric) (lead : String) {name : String} (named : m.name? = some name)
    (admits : ∀ label ∈ m.names, label ≠ nameLabel → tagged.Admits label) :
    ∃ body, m.defaultPath (.layout .tagged) lead = .ok (lead ++ body) ∧
      m.others.Pairwise (·.1 < ·.1) ∧ (∀ e, e ∈ m.others ↔ e ∈ m.labels ∧ e.1 ≠ nameLabel) ∧
      (∀ e ∈ m.others, (tagText (tagOf e)).count '=' = 1) ∧
      body.toList.splitOn ';' = (Segment.escape name.toList).splitOn ';' ++
        m.others.flatMap (fun e => (tagText (tagOf e)).splitOn ';') ∧
      (body.toList.splitOn ';' =
          Segment.escape name.toList :: m.others.map (fun e => tagText (tagOf e)) ↔
        ∀ e ∈ m.labels, ';' ∉ e.2.toList) := by
  have admitted (e : String × String) (he : e ∈ m.others) : tagged.Admits e.1 := by
    obtain ⟨hm, hne⟩ := mem_others.1 he
    exact admits e.1 (mem_names_iff.2 ⟨e.2, hm⟩) hne
  refine ⟨_, defaultPath_of_name named .tagged lead, m.pairwise_lt_others, fun e => mem_others,
    fun e he => count_equals_tagText (admitted e he), ?_, ?_⟩
  · rw [String.toList_ofList, write, splitOn_tagged, List.flatMap_map]
  · have pieces : m.others.map (fun e => tagText (tagOf e)) = (m.others.map tagOf).map tagText := by
      rw [List.map_map]
      rfl
    rw [String.toList_ofList, write, pieces, splitOn_tagged_eq_iff, Segment.semicolon_mem_escape_iff,
      List.forall_mem_map]
    constructor
    · rintro ⟨hname, hothers⟩ e he
      by_cases hn : e.1 = nameLabel
      · have same : m.name? = some e.2 := name?_eq_some_iff.2 (hn ▸ he)
        rw [named, Option.some.injEq] at same
        exact same ▸ hname
      · have hm := mem_others.2 ⟨he, hn⟩
        exact (semicolon_mem_tagText_iff (admitted e hm)).not.1 (hothers e hm)
    · intro h
      refine ⟨h _ (name?_eq_some_iff.1 named), fun e he => ?_⟩
      exact (semicolon_mem_tagText_iff (admitted e he)).not.2 (h e (mem_others.1 he).1)

theorem tagged_pieces_sample :
    (ofList [("job", "a,b=c"), (nameLabel, "up.x")]).name? = some "up.x" ∧
    (∀ e ∈ (ofList [("job", "a,b=c"), (nameLabel, "up.x")]).labels, ';' ∉ e.2.toList) ∧
    ∃ body, (ofList [("job", "a,b=c"), (nameLabel, "up.x")]).defaultPath (.layout .tagged) "p." =
        .ok ("p." ++ body) ∧
      body.toList.splitOn ';' = ["up%2Ex".toList, "job=a\\,b%3Dc".toList] := by
  have named : (ofList [("job", "a,b=c"), (nameLabel, "up.x")]).name? = some "up.x" := by decide
  have values : ∀ e ∈ (ofList [("job", "a,b=c"), (nameLabel, "up.x")]).labels,
      ';' ∉ e.2.toList := by decide
  obtain ⟨body, path, -, -, -, -, pieces⟩ := tagged_pieces_iff _ "p." named (by decide)
  refine ⟨named, values, body, path, ?_⟩
  rw [pieces.2 values]
  decide +kernel

/-- One label makes two tags. -/
theorem tagged_semicolon_cuts :
    (ofList [(nameLabel, "up"), ("job", "a;b")]).name? = some "up" ∧
    (∀ label ∈ (ofList [(nameLabel, "up"), ("job", "a;b")]).names, label ≠ nameLabel →
      tagged.Admits label) ∧
    (ofList [(nameLabel, "up"), ("job", "a;b")]).defaultPath (.layout .tagged) "p." =
      .ok ("p." ++ "up;job=a;b") ∧
    "up;job=a;b".toList.splitOn ';' = ["up".toList, "job=a".toList, "b".toList] ∧
    "up;job=a;b".toList.splitOn ';' ≠ Segment.escape "up".toList ::
      (ofList [(nameLabel, "up"), ("job", "a;b")]).others.map (fun e => tagText (tagOf e)) := by
  decide +kernel

end Metric
end MetricPaths
