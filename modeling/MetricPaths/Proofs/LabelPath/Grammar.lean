import MetricPaths.Proofs.LabelPath.Normal

/-! The grammar of dotted paths. A path is taken apart in one way only, so that what is read
depends on nothing but its pieces; a path that is refused is blamed for the first thing that is
wrong with it; and dots that belong to the lead are read like dots behind it. -/
namespace MetricPaths
namespace LabelPath
open Layout (Tag dottedTag)

/-- Behind the lead and its dots stand a name and, behind one dot each, any number of pieces. -/
structure Pieces (path lead : String) (k : Nat) (name : List Char) (others : List (List Char)) :
    Prop where
  path_eq : path = lead ++ dots k ++ String.ofList (name ++ others.flatMap ('.' :: ·))
  name_ne : name ≠ []
  name_dotFree : '.' ∉ name
  others_dotFree : ∀ piece ∈ others, '.' ∉ piece

theorem pieces_dotFree {tags : List Tag} :
    (∀ piece ∈ tags.flatMap pieces, '.' ∉ piece) ↔ ∀ t ∈ tags, '.' ∉ t.1 ∧ '.' ∉ t.2 := by
  simp only [List.mem_flatMap, pieces, List.mem_cons, List.not_mem_nil, or_false]
  constructor
  · exact fun h t ht => ⟨h _ ⟨t, ht, .inl rfl⟩, h _ ⟨t, ht, .inr rfl⟩⟩
  · rintro h piece ⟨t, ht, rfl | rfl⟩
    · exact (h t ht).1
    · exact (h t ht).2

theorem splits_iff_pieces {path lead : String} {k : Nat} {name : List Char} {tags : List Tag} :
    Splits path lead k name tags ↔ Pieces path lead k name (tags.flatMap pieces) := by
  constructor
  · exact fun h => ⟨by rw [flatMap_pieces_dots]; exact h.path_eq, h.name_ne, h.name_dotFree,
      pieces_dotFree.2 h.tags_dotFree⟩
  · exact fun h => ⟨by rw [← flatMap_pieces_dots]; exact h.path_eq, h.name_ne, h.name_dotFree,
      pieces_dotFree.1 h.others_dotFree⟩

theorem segments_flatMap {name : List Char} {others : List (List Char)} (hname : '.' ∉ name)
    (hothers : ∀ piece ∈ others, '.' ∉ piece) :
    segments (name ++ others.flatMap ('.' :: ·)) = name :: others := by
  induction others generalizing name with
  | nil => simpa using segments_of_notMem hname
  | cons piece rest ih =>
    obtain ⟨hpiece, hrest⟩ := List.forall_mem_cons.1 hothers
    rw [List.flatMap_cons, List.cons_append, segments_append_cons hname, ih hpiece hrest]

theorem Pieces.afterLead?_eq {path lead : String} {k : Nat} {name : List Char}
    {others : List (List Char)} (h : Pieces path lead k name others) :
    afterLead? lead.toList path.toList =
      some (List.replicate k '.' ++ (name ++ others.flatMap ('.' :: ·))) := by
  rw [h.path_eq, afterLead?_path]

theorem Pieces.dropWhile_eq {path lead : String} {k : Nat} {name : List Char}
    {others : List (List Char)} (h : Pieces path lead k name others) :
    (List.replicate k '.' ++ (name ++ others.flatMap ('.' :: ·))).dropWhile (· = '.') =
      name ++ others.flatMap ('.' :: ·) :=
  dropWhile_dots k (head?_append_ne_dot _ h.name_ne h.name_dotFree)

theorem Pieces.unique {path lead : String} {k k' : Nat} {name name' : List Char}
    {others others' : List (List Char)} (h : Pieces path lead k name others)
    (h' : Pieces path lead k' name' others') : k = k' ∧ name = name' ∧ others = others' := by
  have rest := h.afterLead?_eq.symm.trans h'.afterLead?_eq
  rw [Option.some.injEq] at rest
  have body := congrArg (List.dropWhile (· = '.')) rest
  rw [h.dropWhile_eq, h'.dropWhile_eq] at body
  have same := congrArg segments body
  rw [segments_flatMap h.name_dotFree h.others_dotFree,
    segments_flatMap h'.name_dotFree h'.others_dotFree, List.cons.injEq] at same
  refine ⟨?_, same⟩
  have lengths := congrArg List.length rest
  simp only [List.length_append, List.length_replicate, same.1, same.2] at lengths
  omega

theorem flatMap_pieces_injective {tags tags' : List Tag}
    (h : tags.flatMap pieces = tags'.flatMap pieces) : tags = tags' := by
  induction tags generalizing tags' with
  | nil =>
    cases tags' with
    | nil => rfl
    | cons t rest => cases h
  | cons t rest ih =>
    cases tags' with
    | nil => cases h
    | cons t' rest' =>
      simp only [List.flatMap_cons, pieces, List.cons_append, List.nil_append,
        List.cons.injEq] at h
      obtain ⟨hl, hv, hrest⟩ := h
      rw [Prod.ext hl hv, ih hrest]

theorem Splits.unique {path lead : String} {k k' : Nat} {name name' : List Char}
    {tags tags' : List Tag} (h : Splits path lead k name tags)
    (h' : Splits path lead k' name' tags') : k = k' ∧ name = name' ∧ tags = tags' := by
  obtain ⟨hk, hn, ht⟩ := (splits_iff_pieces.1 h).unique (splits_iff_pieces.1 h')
  exact ⟨hk, hn, flatMap_pieces_injective ht⟩

/-- A path does not begin with the lead, or has nothing but dots behind it, or has a name. -/
theorem lead_or_dots_or_pieces (path lead : String) :
    ¬ lead.toList <+: path.toList ∨ (∃ k, path = lead ++ dots k) ∨
      ∃ k name others, Pieces path lead k name others := by
  by_cases hl : lead.toList <+: path.toList
  · obtain ⟨rest, hrest⟩ := hl
    right
    obtain ⟨k, hk⟩ := exists_replicate_dots rest
    obtain ⟨name, others, -, hname, hothers, hbody⟩ := exists_segments (rest.dropWhile (· = '.'))
    have path_eq : path = lead ++ dots k ++ String.ofList (name ++ others.flatMap ('.' :: ·)) := by
      rw [← String.toList_inj, ← hrest, hk, hbody]
      simp [dots]
    cases name with
    | cons c name => exact .inr ⟨k, c :: name, others, path_eq, List.cons_ne_nil _ _, hname, hothers⟩
    | nil =>
      -- Behind the dots there is no further one for a piece to stand behind.
      cases others with
      | nil => exact .inl ⟨k, by rw [path_eq]; simp⟩
      | cons piece others =>
        have first := List.head?_dropWhile_not (· = '.') rest
        rw [hbody] at first
        simp at first
  · exact .inl hl

theorem labels_of_not_lead {path lead : String} (h : ¬ lead.toList <+: path.toList) :
    labels path lead = .error (.lead path lead) := by
  rw [labels]
  cases hl : afterLead? lead.toList path.toList with
  | none => rfl
  | some rest => exact absurd ⟨rest, (afterLead?_eq_some_iff.1 hl).symm⟩ h

theorem labels_of_dots (lead : String) (k : Nat) :
    labels (lead ++ dots k) lead = .error (.noName (lead ++ dots k)) := by
  have rest : afterLead? lead.toList (lead ++ dots k).toList = some (List.replicate k '.') := by
    rw [afterLead?_eq_some_iff]
    simp [dots]
  have none : (List.replicate k '.').dropWhile (· = '.') = [] := by simp
  rw [labels, rest]
  simp only [none]
  rfl

theorem Pieces.labels_eq {path lead : String} {k : Nat} {name : List Char}
    {others : List (List Char)} (h : Pieces path lead k name others) : labels path lead =
      if others.length % 2 = 1 then .error (.oddSegments path others.length)
      else (do
        let value ← decodeSegment name
        let others ← pairs others
        .ok ((nameLabel, value) :: others)) := by
  rw [labels, h.afterLead?_eq]
  simp only [h.dropWhile_eq, segments_flatMap h.name_dotFree h.others_dotFree, List.isEmpty_iff,
    if_neg h.name_ne]

inductive StopsAt (bad : List Char) (cause : Segment.Fault) : List (List Char) → Prop
  | here {rest : List (List Char)} : Segment.unescape bad = .error cause →
      StopsAt bad cause (bad :: rest)
  | later {segment value : List Char} {rest : List (List Char)} :
      Segment.unescape segment = .ok value → StopsAt bad cause rest →
      StopsAt bad cause (segment :: rest)

/-- Why a path is refused. Each reason is given only where none of those before it holds. -/
inductive Refused (path lead : String) : Fault → Prop
  | lead : ¬ lead.toList <+: path.toList → Refused path lead (.lead path lead)
  | noName {k : Nat} : path = lead ++ dots k → Refused path lead (.noName path)
  | oddSegments {k : Nat} {name : List Char} {others : List (List Char)} :
      Pieces path lead k name others → others.length % 2 = 1 →
      Refused path lead (.oddSegments path others.length)
  | segment {k : Nat} {name bad : List Char} {tags : List Tag} {cause : Segment.Fault} :
      Splits path lead k name tags → StopsAt bad cause (name :: tags.map Prod.snd) →
      Refused path lead (.segment bad cause)

theorem decodeSegment_eq_error_iff {segment : List Char} {fault : Fault} :
    decodeSegment segment = .error fault ↔
      ∃ cause, Segment.unescape segment = .error cause ∧ fault = .segment segment cause := by
  rw [decodeSegment]
  cases Segment.unescape segment with
  | error cause => simp [eq_comm]
  | ok value => simp

theorem readTag_eq_error_iff {t : Tag} {fault : Fault} :
    readTag t = .error fault ↔
      ∃ cause, Segment.unescape t.2 = .error cause ∧ fault = .segment t.2 cause := by
  rw [← decodeSegment_eq_error_iff, readTag]
  cases decodeSegment t.2 <;> simp [Except.map]

theorem mapM_readTag_eq_error_iff {tags : List Tag} {fault : Fault} :
    tags.mapM readTag = .error fault ↔
      ∃ bad cause, StopsAt bad cause (tags.map Prod.snd) ∧ fault = .segment bad cause := by
  induction tags with
  | nil =>
    constructor
    · intro h
      cases h
    · rintro ⟨_, _, stops, -⟩
      cases stops
  | cons t rest ih =>
    have tail : (readTag t >>= fun e => rest.mapM readTag >>= fun es => pure (e :: es)) =
        .error fault ↔ readTag t = .error fault ∨
          ∃ e, readTag t = .ok e ∧ rest.mapM readTag = .error fault := by
      rw [bind_eq_error_iff]
      refine or_congr_right (exists_congr fun e => and_congr_right fun _ => ?_)
      cases rest.mapM readTag <;> simp [bind, Except.bind, pure, Except.pure]
    rw [List.mapM_cons, tail, readTag_eq_error_iff, ih]
    constructor
    · rintro (⟨cause, hc, rfl⟩ | ⟨e, he, bad, cause, stops, rfl⟩)
      · exact ⟨t.2, cause, .here hc, rfl⟩
      · exact ⟨bad, cause, .later (readTag_eq_ok_iff.1 he).2 stops, rfl⟩
    · rintro ⟨bad, cause, stops, rfl⟩
      cases stops with
      | here hc => exact .inl ⟨cause, hc, rfl⟩
      | @later _ value _ hv stops =>
        refine .inr ⟨(String.ofList t.1, String.ofList value), ?_, bad, cause, stops, rfl⟩
        exact readTag_eq_ok_iff.2 ⟨rfl, by rw [String.toList_ofList]; exact hv⟩

/-- The name is read before the labels, and these in the order of the path. -/
theorem Splits.labels_eq_error_iff {path lead : String} {k : Nat} {name : List Char}
    {tags : List Tag} {fault : Fault} (h : Splits path lead k name tags) :
    labels path lead = .error fault ↔ ∃ bad cause, StopsAt bad cause (name :: tags.map Prod.snd) ∧
      fault = .segment bad cause := by
  have tail (value : String) : (tags.mapM readTag >>= fun others =>
      (.ok ((nameLabel, value) :: others) : Except Fault (List (String × String)))) = .error fault ↔
        tags.mapM readTag = .error fault := by
    cases tags.mapM readTag <;> simp [bind, Except.bind]
  rw [h.labels_eq, bind_eq_error_iff, decodeSegment_eq_error_iff]
  simp only [tail, mapM_readTag_eq_error_iff]
  constructor
  · rintro (⟨cause, hc, rfl⟩ | ⟨value, hv, bad, cause, stops, rfl⟩)
    · exact ⟨name, cause, .here hc, rfl⟩
    · exact ⟨bad, cause, .later (decodeSegment_eq_ok_iff.1 hv) stops, rfl⟩
  · rintro ⟨bad, cause, stops, rfl⟩
    cases stops with
    | here hc => exact .inl ⟨cause, hc, rfl⟩
    | @later _ value _ hv stops =>
      refine .inr ⟨String.ofList value, ?_, bad, cause, stops, rfl⟩
      exact decodeSegment_eq_ok_iff.2 (by rw [String.toList_ofList]; exact hv)

theorem Refused.labels_eq {path lead : String} {fault : Fault} (h : Refused path lead fault) :
    labels path lead = .error fault := by
  cases h with
  | lead hl => exact labels_of_not_lead hl
  | noName hp =>
    subst hp
    exact labels_of_dots lead _
  | oddSegments hp odd => rw [hp.labels_eq, if_pos odd]
  | segment hs stops => exact hs.labels_eq_error_iff.2 ⟨_, _, stops, rfl⟩

theorem refused_of_labels {path lead : String} {fault : Fault}
    (h : labels path lead = .error fault) : Refused path lead fault := by
  obtain hl | ⟨k, hk⟩ | ⟨k, name, others, hp⟩ := lead_or_dots_or_pieces path lead
  · obtain rfl := Except.error.inj ((labels_of_not_lead hl).symm.trans h)
    exact .lead hl
  · have none := labels_of_dots lead k
    rw [← hk] at none
    obtain rfl := Except.error.inj (none.symm.trans h)
    exact .noName hk
  · by_cases odd : others.length % 2 = 1
    · rw [hp.labels_eq, if_pos odd] at h
      cases h
      exact .oddSegments hp odd
    · have even : others.length % 2 = 0 := by omega
      obtain ⟨tags, rfl⟩ := exists_pieces even
      have hs := splits_iff_pieces.2 hp
      obtain ⟨bad, cause, stops, rfl⟩ := hs.labels_eq_error_iff.1 h
      exact .segment hs stops

theorem labels_lead_dots {path lead : String} {k : Nat}
    (h : (lead ++ dots k).toList <+: path.toList) :
    labels path (lead ++ dots k) = labels path lead := by
  obtain ⟨rest, hrest⟩ := h
  have longer : afterLead? (lead ++ dots k).toList path.toList = some rest :=
    afterLead?_eq_some_iff.2 hrest.symm
  have shorter : afterLead? lead.toList path.toList = some (List.replicate k '.' ++ rest) := by
    rw [afterLead?_eq_some_iff, ← hrest]
    simp [dots]
  have dropped : (List.replicate k '.' ++ rest).dropWhile (· = '.') = rest.dropWhile (· = '.') :=
    List.dropWhile_append_of_pos fun c hc => decide_eq_true (List.eq_of_mem_replicate hc)
  rw [labels, longer, labels, shorter]
  simp only [dropped]

theorem reads_iff {tags : List Tag} {others : List (String × String)} : Reads tags others ↔
    List.Forall₂ (fun t e => e.1 = String.ofList t.1 ∧ Segment.unescape t.2 = .ok e.2.toList)
      tags others :=
  ⟨fun h => h.imp fun _ _ => readTag_eq_ok_iff.1, fun h => h.imp fun _ _ => readTag_eq_ok_iff.2⟩

end LabelPath
end MetricPaths
