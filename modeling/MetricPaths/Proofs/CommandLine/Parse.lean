import MetricPaths.Proofs.CommandLine.Ending
import MetricPaths.Proofs.CommandLine.RoundTrip

/-! What `parse` shows of a path. As a table it shows all of its labels; as JSON the last value of
each name only, so that a path whose names are repeated, from which there is no metric, is shown
as if it were that of another metric. -/
namespace MetricPaths

namespace Metric

/-- A label that no later one of the same name replaces. -/
def IsLast (found : List (String × String)) (e : String × String) : Prop :=
  ∃ before after, found = before ++ e :: after ∧ e.1 ∉ after.map Prod.fst

theorem isLast_cons_iff {found : List (String × String)} {e x : String × String} :
    IsLast (x :: found) e ↔ e = x ∧ x.1 ∉ found.map Prod.fst ∨ IsLast found e := by
  constructor
  · rintro ⟨before, after, split, last⟩
    cases before with
    | nil =>
      obtain ⟨rfl, rfl⟩ := List.cons.inj split
      exact .inl ⟨rfl, last⟩
    | cons y before => exact .inr ⟨before, after, (List.cons.inj split).2, last⟩
  · rintro (⟨rfl, last⟩ | ⟨before, after, rfl, last⟩)
    · exact ⟨[], found, rfl, last⟩
    · exact ⟨x :: before, after, rfl, last⟩

theorem IsLast.mem {found : List (String × String)} {e : String × String} (h : IsLast found e) :
    e ∈ found := by
  obtain ⟨before, after, rfl, -⟩ := h
  simp

theorem exists_isLast {found : List (String × String)} {e : String × String} (h : e ∈ found) :
    ∃ last, IsLast found last ∧ last.1 = e.1 := by
  induction found generalizing e with
  | nil => cases h
  | cons x found ih =>
    by_cases later : ∃ y ∈ found, y.1 = e.1
    · obtain ⟨y, hy, same⟩ := later
      obtain ⟨last, hl, name⟩ := ih hy
      exact ⟨last, isLast_cons_iff.2 (.inr hl), name.trans same⟩
    · push Not at later
      obtain rfl | hm := List.mem_cons.1 h
      · refine ⟨e, isLast_cons_iff.2 (.inl ⟨rfl, fun hn => ?_⟩), rfl⟩
        obtain ⟨y, hy, same⟩ := List.mem_map.1 hn
        exact later y hy same
      · exact absurd rfl (later e hm)

theorem mem_putIn_iff {name value : String} {labels : List (String × String)}
    {e : String × String} (distinct : (labels.map Prod.fst).Nodup) :
    e ∈ putIn name value labels ↔ e = (name, value) ∨ e ∈ labels ∧ e.1 ≠ name := by
  induction labels with
  | nil => simp [putIn]
  | cons x rest ih =>
    obtain ⟨n, v⟩ := x
    rw [List.map_cons, List.nodup_cons] at distinct
    by_cases hn : n = name
    · subst hn
      have others : e ∈ rest → e.1 ≠ n := fun he h => distinct.1 (List.mem_map.2 ⟨e, he, h⟩)
      rw [putIn, if_pos rfl, List.mem_cons, List.mem_cons]
      constructor
      · exact Or.imp_right fun he => ⟨.inr he, others he⟩
      · rintro (rfl | ⟨rfl | he, other⟩)
        · exact .inl rfl
        · exact absurd rfl other
        · exact .inr he
    · rw [putIn, if_neg hn, List.mem_cons, List.mem_cons, ih distinct.2]
      constructor
      · rintro (rfl | rfl | ⟨he, other⟩)
        · exact .inr ⟨.inl rfl, hn⟩
        · exact .inl rfl
        · exact .inr ⟨.inr he, other⟩
      · rintro (rfl | ⟨rfl | he, other⟩)
        · exact .inr (.inl rfl)
        · exact .inl rfl
        · exact .inr (.inr ⟨he, other⟩)

/-- What is put in stays unless something later replaces it. -/
theorem mem_labels_foldl_insert_iff {m : Metric} {found : List (String × String)}
    {e : String × String} : e ∈ (found.foldl (fun m e => m.insert e.1 e.2) m).labels ↔
      IsLast found e ∨ e ∈ m.labels ∧ e.1 ∉ found.map Prod.fst := by
  induction found generalizing m with
  | nil => simp [IsLast]
  | cons x found ih =>
    rw [List.foldl_cons, ih, insert, mem_putIn_iff m.distinct, isLast_cons_iff, List.map_cons,
      List.mem_cons, not_or]
    constructor
    · rintro (last | ⟨rfl | ⟨he, other⟩, later⟩)
      · exact .inl (.inr last)
      · exact .inl (.inl ⟨rfl, later⟩)
      · exact .inr ⟨he, other, later⟩
    · rintro ((⟨rfl, later⟩ | last) | ⟨he, other, later⟩)
      · exact .inr ⟨.inl rfl, later⟩
      · exact .inl last
      · exact .inr ⟨.inr ⟨he, other⟩, later⟩

theorem mem_labels_ofList_iff {found : List (String × String)} {e : String × String} :
    e ∈ (ofList found).labels ↔ IsLast found e := by
  rw [ofList, mem_labels_foldl_insert_iff]
  simp [empty]

theorem subset_labels_ofList_iff {found : List (String × String)} :
    found ⊆ (ofList found).labels ↔ ∀ e ∈ found, ∀ e' ∈ found, e.1 = e'.1 → e = e' := by
  constructor
  · intro all e he e' he' same
    exact List.inj_on_of_nodup_map (ofList found).distinct (all he) (all he') same
  · intro unique e he
    obtain ⟨last, hl, same⟩ := exists_isLast he
    rw [mem_labels_ofList_iff]
    exact unique e he last hl.mem same.symm ▸ hl

end Metric

namespace LabelPath

theorem addAll_eq_error {path : String} {m : Metric} {found : List (String × String)}
    {fault : Fault} (h : addAll path m found = .error fault) :
    ∃ label, fault = .duplicate path label := by
  induction found generalizing m with
  | nil => cases h
  | cons e rest ih =>
    rw [addAll] at h
    split_ifs at h
    · cases h
      exact ⟨_, rfl⟩
    · exact ih h

/-- A path from whose labels there is no metric repeats one of their names. -/
theorem metric_of_repeated {path lead : String} {found : List (String × String)}
    (h : labels path lead = .ok found) (repeated : ¬ (found.map Prod.fst).Nodup) :
    ∃ label, metric path lead = .error (.duplicate path label) := by
  cases hm : metric path lead with
  | ok m =>
    obtain ⟨_, h', distinct⟩ := exists_metric_iff.1 ⟨m, hm⟩
    rw [h, Except.ok.injEq] at h'
    exact absurd (h' ▸ distinct) repeated
  | error fault =>
    rw [metric, h] at hm
    obtain ⟨label, rfl⟩ := addAll_eq_error hm
    exact ⟨label, rfl⟩

theorem metric_of_error {path lead : String} {fault : Fault} (h : labels path lead = .error fault) :
    metric path lead = .error fault := by
  rw [metric, h]
  rfl

end LabelPath

namespace CommandLine
open Arguments

def leadWord (lead : String) : String := "--prefix=" ++ lead

theorem toList_leadWord (lead : String) :
    (leadWord lead).toList = "--prefix=".toList ++ lead.toList := String.toList_append

theorem leadWord_ne (lead : String) : leadWord lead ≠ "--" := by
  intro h
  have := congrArg (fun s => s.toList.length) h
  simp [toList_leadWord] at this

theorem classify_leadWord (lead : String) : classify parseOptions (leadWord lead) =
    .ok (.use ⟨some (.value "prefix"), "--prefix".toList, some lead.toList, true⟩) := by
  rw [classify, toList_leadWord]
  rfl

theorem exists_classify_leadWord (lead : String) :
    ∃ word, classify frontOptions (leadWord lead) = .ok word := by
  have unknown : classify frontOptions (leadWord lead) =
      if isNegativeNumber (leadWord lead).toList || (leadWord lead).toList.contains ' ' then
        .ok (.plain (leadWord lead))
      else .ok (.use ⟨none, (leadWord lead).toList, none, false⟩) := by
    rw [classify, toList_leadWord]
    rfl
  rw [unknown]
  split_ifs <;> exact ⟨_, rfl⟩

theorem lineOf_parse_lead (path lead : String) :
    lineOf ["parse", "--json", leadWord lead, "--", path] =
      .ok ⟨none, some (.parse ⟨path, some lead, true⟩)⟩ := by
  obtain ⟨word, hw⟩ := exists_classify_leadWord lead
  have front : words frontOptions ["parse", "--json", leadWord lead, "--", path] =
      .ok [.plain "parse", .use ⟨none, "--json".toList, none, false⟩, word, .rest, .plain path] := by
    simp only [words, if_neg (leadWord_ne lead), hw]
    rfl
  have behind : words parseOptions ["--json", leadWord lead, "--", path] =
      .ok [.use ⟨some (.flag "json"), "--json".toList, none, false⟩,
        .use ⟨some (.value "prefix"), "--prefix".toList, some lead.toList, true⟩, .rest,
        .plain path] := by
    simp only [words, if_neg (leadWord_ne lead), classify_leadWord]
    rfl
  have given : requestOf "parse" ["--json", leadWord lead, "--", path] =
      .ok (.parse ⟨path, some (String.ofList lead.toList), true⟩) := by
    rw [requestOf, ofWords, behind]
    rfl
  rw [String.ofList_toList] at given
  have command (ws : List Word) (n : Nat) :
      Arguments.front frontOptions {} (n + 1) ["parse", "--json", leadWord lead, "--", path]
        (.plain "parse" :: ws) = .ok ({}, some ("parse", ["--json", leadWord lead, "--", path])) := rfl
  rw [lineOf, front]
  dsimp only [bind, Except.bind]
  rw [command]
  dsimp only
  rw [given]
  rfl

section
variable [Libraries]
variable {w : World} {path lead : String} {given : Option String}

theorem perform_parse_of_ok (json : Bool) {found : List (String × String)} (threshold : Nat)
    (hlead : leadFor w given = .ok lead) (h : LabelPath.labels path lead = .ok found) :
    (perform w threshold (.parse ⟨path, given, json⟩)).exit = .ok 0 ∧
      (perform w threshold (.parse ⟨path, given, json⟩)).shown =
        showLabels ⟨path, given, json⟩ found := by
  rw [perform_eq, work_parse_of_ok hlead h]
  exact ⟨rfl, rfl⟩

theorem perform_parse_of_error (json : Bool) {fault : LabelPath.Fault} (threshold : Nat)
    (hlead : leadFor w given = .ok lead) (h : LabelPath.labels path lead = .error fault) :
    (perform w threshold (.parse ⟨path, given, json⟩)).shown = [] ∧
      (path.length < Nat.pow 10 Value.digitLimit →
        (perform w threshold (.parse ⟨path, given, json⟩)).exit = .ok 14) := by
  rw [perform_eq, work_parse_of_error hlead h]
  refine ⟨rfl, fun short => ?_⟩
  have tellable : Command.Tellable threshold fault.failure := LabelPath.Fault.tellable threshold
    fun n hn => Nat.lt_of_le_of_lt (LabelPath.number_le_of_labels h hn) short
  dsimp only [Work.failed, Command.Ending.ofProblem]
  rw [Command.concludeAt_of_tellable fault.isFree tellable, Failure.exitCode,
    LabelPath.Fault.kind_failure]
  rfl

/-- As JSON a path is shown as the metric that is read from it. If none is since the path cannot
be read, nothing is shown; but if names are repeated, the last label of each name is, where the
table has them all. -/
theorem parse_json_shows_last {arguments : List String} {level : Option String} {threshold : Nat}
    (hl : lineOf arguments = .ok ⟨level, some (.parse ⟨path, given, true⟩)⟩)
    (ht : thresholdFor w level = .ok threshold) (hlead : leadFor w given = .ok lead) :
    ∃ r, run w arguments = .ran r ∧
      (∀ m, LabelPath.metric path lead = .ok m → r.exit = .ok 0 ∧
        r.shown = [.text ((jsonOfMetric m).write ++ "\n")] ∧
        Json.read? (jsonOfMetric m).write = some (jsonOfMetric m)) ∧
      (∀ fault, LabelPath.labels path lead = .error fault →
        LabelPath.metric path lead = .error fault ∧ r.shown = [] ∧
          (path.length < Nat.pow 10 Value.digitLimit → r.exit = .ok 14)) ∧
      ∀ found, LabelPath.labels path lead = .ok found →
        (perform w threshold (.parse ⟨path, given, false⟩)).shown =
          [.table (some path) ["Label", "Value"] (found.map fun e => [e.1, e.2])] ∧
        ∃ m : Metric, r.exit = .ok 0 ∧ r.shown = [.text ((jsonOfMetric m).write ++ "\n")] ∧
          (∀ e, e ∈ m.labels ↔ Metric.IsLast found e) ∧
          (found ⊆ m.labels ↔ ∀ e ∈ found, ∀ e' ∈ found, e.1 = e'.1 → e = e') ∧
          (¬ (found.map Prod.fst).Nodup →
            ∃ label, LabelPath.metric path lead = .error (.duplicate path label)) := by
  refine ⟨_, run_eq hl ht, fun m hm => ?_, fun fault h => ?_, fun found h => ?_⟩
  · obtain ⟨exit, shown⟩ := perform_parse_of_ok true threshold hlead (LabelPath.metric_eq_ok_iff.1 hm)
    refine ⟨exit, ?_, Json.read?_write (isTextual_jsonOfMetric m)⟩
    have same : jsonOfMetric (.ofList m.labels) = jsonOfMetric m := by
      rw [jsonOfMetric, Metric.labels_ofList m.distinct, jsonOfMetric]
    rw [shown, showLabels, if_pos rfl, same]
  · exact ⟨LabelPath.metric_of_error h, perform_parse_of_error true threshold hlead h⟩
  · obtain ⟨exit, shown⟩ := perform_parse_of_ok true threshold hlead h
    obtain ⟨-, table⟩ := perform_parse_of_ok false threshold hlead h
    refine ⟨table, .ofList found, exit, shown, fun e => Metric.mem_labels_ofList_iff,
      Metric.subset_labels_ofList_iff, LabelPath.metric_of_repeated h⟩

end

theorem parse_json_sample : ∃ r r',
    run ⟨[], []⟩ ["parse", "--json", leadWord "p.", "--", "p.up.a.1"] = .ran r ∧ r.exit = .ok 0 ∧
    r.shown = [.text "\x7b\"__name__\": \"up\", \"a\": \"1\"\x7d\n"] ∧
    run ⟨[], []⟩ ["parse", "--json", leadWord "p.", "--", "p.up.a"] = .ran r' ∧
    r'.exit = .ok 14 ∧ r'.shown = [] := by
  have threshold : thresholdFor ⟨[], []⟩ none = .ok 20 := by decide +kernel
  have metric : LabelPath.metric "p.up.a.1" "p." = .ok (.ofList [(nameLabel, "up"), ("a", "1")]) :=
    LabelPath.metric_eq_ok_iff.2 rfl
  have refused : LabelPath.labels "p.up.a" "p." = .error (.oddSegments "p.up.a" 1) := by rfl
  obtain ⟨r, ran, shows, -⟩ :=
    parse_json_shows_last (lineOf_parse_lead "p.up.a.1" "p.") threshold rfl
  obtain ⟨r', ran', -, refuses, -⟩ :=
    parse_json_shows_last (lineOf_parse_lead "p.up.a" "p.") threshold rfl
  obtain ⟨exit, shown, -⟩ := shows _ metric
  obtain ⟨-, hidden, exit'⟩ := refuses _ refused
  refine ⟨r, r', ran, exit, shown.trans ?_, ran', exit' (by decide +kernel), hidden⟩
  have text : (jsonOfMetric (.ofList [(nameLabel, "up"), ("a", "1")])).write ++ "\n" =
      "\x7b\"__name__\": \"up\", \"a\": \"1\"\x7d\n" := by decide +kernel
  rw [text]

/-- A label is lost, and there is no metric of the path that is shown. -/
theorem parse_json_of_repeated :
    LabelPath.labels "up.a.1.a.2" "" = .ok [(nameLabel, "up"), ("a", "1"), ("a", "2")] ∧
    LabelPath.metric "up.a.1.a.2" "" = .error (.duplicate "up.a.1.a.2" "a") ∧
    ∃ r, run ⟨[], []⟩ ["parse", "up.a.1.a.2", "--json"] = .ran r ∧ r.exit = .ok 0 ∧
      r.shown = [.text "\x7b\"__name__\": \"up\", \"a\": \"2\"\x7d\n"] := by
  have threshold : thresholdFor ⟨[], []⟩ none = .ok 20 := by decide +kernel
  have line : lineOf ["parse", "up.a.1.a.2", "--json"] =
      .ok ⟨none, some (.parse ⟨"up.a.1.a.2", none, true⟩)⟩ := rfl
  have lead : leadFor ⟨[], []⟩ none = .ok "" := by
    have settings : Libraries.readSettings [] [] = .ok .standard := by decide +kernel
    rw [leadFor, settings]
    rfl
  have labels : LabelPath.labels "up.a.1.a.2" "" =
      .ok [(nameLabel, "up"), ("a", "1"), ("a", "2")] := by rfl
  have refused : LabelPath.metric "up.a.1.a.2" "" = .error (.duplicate "up.a.1.a.2" "a") := by
    rw [LabelPath.metric, labels]
    rfl
  obtain ⟨exit, shown⟩ := perform_parse_of_ok true 20 lead labels
  refine ⟨labels, refused, _, run_eq line threshold, exit, shown.trans ?_⟩
  have text : (jsonOfMetric (.ofList [(nameLabel, "up"), ("a", "1"), ("a", "2")])).write ++ "\n" =
      "\x7b\"__name__\": \"up\", \"a\": \"2\"\x7d\n" := by decide +kernel
  rw [showLabels, if_pos rfl, text]

end CommandLine
end MetricPaths
