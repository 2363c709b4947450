import MetricPaths.Metric
import MetricPaths.Proofs.LabelPath.Reading

/-! Metrics from items. An item spells a label if something stands before its first equals sign.
Items make a metric exactly if each of them spells a label and no name is given twice, that of the
metric included; else the first item that does not fit is blamed. Every metric with names that
items can spell is made by its labels, in whatever order they are given. -/
namespace MetricPaths
namespace Metric

def itemOf (e : String × String) : String := e.1 ++ "=" ++ e.2

theorem toList_itemOf (e : String × String) :
    (itemOf e).toList = e.1.toList ++ '=' :: e.2.toList := by
  simp [itemOf]

/-- An item spells a label whose name is not empty and has no equals sign. -/
structure Spells (item : String) (e : String × String) : Prop where
  name_ne : e.1 ≠ ""
  name_free : '=' ∉ e.1.toList
  item_eq : item = itemOf e

theorem takeWhile_key {key : List Char} (free : '=' ∉ key) (value : List Char) :
    (key ++ '=' :: value).takeWhile (· ≠ '=') = key := by
  have before : ∀ c ∈ key, decide (c ≠ '=') = true := fun c hc =>
    decide_eq_true fun he => free (he ▸ hc)
  rw [List.takeWhile_append_of_pos before]
  simp

theorem splitItem?_eq_some_iff {item key value : List Char} :
    splitItem? item = some (key, value) ↔ key ≠ [] ∧ '=' ∉ key ∧ item = key ++ '=' :: value := by
  constructor
  · intro h
    unfold splitItem? at h
    split at h
    · cases h
    · next sign rest hd =>
      dsimp only at h
      split_ifs at h with empty
      cases h
      have first := List.head?_dropWhile_not (· ≠ '=') item
      rw [hd] at first
      obtain rfl : sign = '=' := by simpa using first
      refine ⟨by simpa using empty, fun mem => ?_, ?_⟩
      · simpa using List.all_eq_true.1 List.all_takeWhile _ mem
      · rw [← hd, List.takeWhile_append_dropWhile]
  · rintro ⟨ne, free, rfl⟩
    have behind := List.takeWhile_append_dropWhile (p := (· ≠ '=')) (l := key ++ '=' :: value)
    rw [takeWhile_key free, List.append_cancel_left_eq] at behind
    rw [splitItem?, behind, takeWhile_key free]
    simp [ne]

theorem splitItem?_eq_some_iff_spells {item : String} {e : String × String} :
    splitItem? item.toList = some (e.1.toList, e.2.toList) ↔ Spells item e := by
  rw [splitItem?_eq_some_iff, ← toList_itemOf, String.toList_inj]
  exact ⟨fun ⟨ne, free, he⟩ => ⟨by simpa using ne, free, he⟩,
    fun h => ⟨by simpa using h.name_ne, h.name_free, h.item_eq⟩⟩

theorem Spells.name_eq {item : String} {e : String × String} (h : Spells item e) :
    e.1.toList = item.toList.takeWhile (· ≠ '=') := by
  rw [h.item_eq, toList_itemOf, takeWhile_key h.name_free]

variable {m : Metric} {item : String} {items : List String}

theorem addItems_of_spells {e : String × String} (h : Spells item e) (rest : List String) :
    addItems m (item :: rest) =
      if e.1 ∈ m.names then .error (.duplicate e.1) else addItems (m.insert e.1 e.2) rest := by
  rw [addItems, splitItem?_eq_some_iff_spells.2 h]
  simp only [String.ofList_toList]

theorem addItems_of_not_spells (h : ¬ ∃ e, Spells item e) (rest : List String) :
    addItems m (item :: rest) = .error (.noKey item) := by
  cases hs : splitItem? item.toList with
  | none => rw [addItems, hs]
  | some e =>
    obtain ⟨key, value⟩ := e
    refine absurd ⟨(String.ofList key, String.ofList value), ?_⟩ h
    rw [← splitItem?_eq_some_iff_spells, hs, String.toList_ofList, String.toList_ofList]

theorem addItems_append {labels : List (String × String)}
    (spelled : List.Forall₂ Spells items labels) (fresh : (m.names ++ labels.map Prod.fst).Nodup) :
    ∃ m' : Metric, m'.labels = m.labels ++ labels ∧
      ∀ more, addItems m (items ++ more) = addItems m' more := by
  induction spelled generalizing m with
  | nil => exact ⟨m, (List.append_nil _).symm, fun _ => rfl⟩
  | @cons item e items labels here _ ih =>
    have new : e.1 ∉ m.names := notMem_of_nodup fresh
    have names := names_insert_of_notMem e.2 new
    obtain ⟨m', hl, run⟩ := ih (m := m.insert e.1 e.2) (by simpa [names] using fresh)
    refine ⟨m', ?_, fun more => ?_⟩
    · rw [hl, labels_insert_of_notMem e.2 new, List.append_assoc]
      rfl
    · rw [List.cons_append, addItems_of_spells here, if_neg new, run]

inductive Blamed (known : List String) (item : String) : ItemFault → Prop
  | noKey : (¬ ∃ e, Spells item e) → Blamed known item (.noKey item)
  | duplicate {e : String × String} : Spells item e → e.1 ∈ known →
      Blamed known item (.duplicate e.1)

theorem Blamed.addItems_eq {fault : ItemFault} (h : Blamed m.names item fault)
    (after : List String) : addItems m (item :: after) = .error fault := by
  cases h with
  | noKey none => exact addItems_of_not_spells none after
  | duplicate spelled known => rw [addItems_of_spells spelled, if_pos known]

/-- The first item that spells no new label, and what it is blamed for. -/
def BlamesFirst (known items : List String) (fault : ItemFault) : Prop :=
  ∃ before item after labels, items = before ++ item :: after ∧
    List.Forall₂ Spells before labels ∧ (known ++ labels.map Prod.fst).Nodup ∧
    Blamed (known ++ labels.map Prod.fst) item fault

/-- Either all items spell new labels, or there is a first that does not. -/
theorem spelled_or_blamesFirst {known : List String} (distinct : known.Nodup)
    (items : List String) :
    (∃ labels, List.Forall₂ Spells items labels ∧ (known ++ labels.map Prod.fst).Nodup) ∨
      ∃ fault, BlamesFirst known items fault := by
  induction items generalizing known with
  | nil => exact .inl ⟨[], .nil, by simpa using distinct⟩
  | cons item items ih =>
    have blamed {fault : ItemFault} (h : Blamed known item fault) :
        BlamesFirst known (item :: items) fault :=
      ⟨[], item, items, [], rfl, .nil, by simpa using distinct, by simpa using h⟩
    by_cases spells : ∃ e, Spells item e
    · obtain ⟨e, he⟩ := spells
      by_cases old : e.1 ∈ known
      · exact .inr ⟨_, blamed (.duplicate he old)⟩
      · have more : (known ++ [e.1]).Nodup := by
          rw [List.nodup_append]
          refine ⟨distinct, by simp, fun a ha b hb same => old ?_⟩
          rw [← List.mem_singleton.1 hb, ← same]
          exact ha
        obtain ⟨labels, spelled, fresh⟩ | ⟨fault, before, item', after, labels, rfl, spelled, fresh,
          blame⟩ := ih more
        · exact .inl ⟨e :: labels, .cons he spelled, by simpa using fresh⟩
        · exact .inr ⟨fault, item :: before, item', after, e :: labels, rfl, .cons he spelled,
            by simpa using fresh, by simpa using blame⟩
    · exact .inr ⟨_, blamed (.noKey spells)⟩

theorem addItems_of_blamesFirst {fault : ItemFault} (h : BlamesFirst m.names items fault) :
    addItems m items = .error fault := by
  obtain ⟨before, item, after, labels, rfl, spelled, fresh, blamed⟩ := h
  obtain ⟨m', hl, run⟩ := addItems_append spelled fresh
  have names : m'.names = m.names ++ labels.map Prod.fst := by
    rw [Metric.names, hl, List.map_append]
    rfl
  rw [run]
  exact (names ▸ blamed).addItems_eq after

theorem addItems_eq_ok_iff {m' : Metric} : addItems m items = .ok m' ↔
    ∃ labels, List.Forall₂ Spells items labels ∧ (m.names ++ labels.map Prod.fst).Nodup ∧
      m'.labels = m.labels ++ labels := by
  have whole {labels : List (String × String)} (spelled : List.Forall₂ Spells items labels)
      (fresh : (m.names ++ labels.map Prod.fst).Nodup) :
      ∃ made : Metric, made.labels = m.labels ++ labels ∧ addItems m items = .ok made := by
    obtain ⟨made, hl, run⟩ := addItems_append spelled fresh
    have last := run []
    rw [List.append_nil] at last
    exact ⟨made, hl, last⟩
  constructor
  · intro h
    obtain ⟨labels, spelled, fresh⟩ | ⟨fault, blames⟩ := spelled_or_blamesFirst m.nodup_names items
    · obtain ⟨made, hl, hm⟩ := whole spelled fresh
      cases hm.symm.trans h
      exact ⟨labels, spelled, fresh, hl⟩
    · cases (addItems_of_blamesFirst blames).symm.trans h
  · rintro ⟨labels, spelled, fresh, hl⟩
    obtain ⟨made, hl', hm⟩ := whole spelled fresh
    rw [hm, Except.ok.injEq]
    cases made
    cases m'
    cases hl'.trans hl.symm
    rfl

theorem addItems_eq_error_iff {fault : ItemFault} :
    addItems m items = .error fault ↔ BlamesFirst m.names items fault := by
  refine ⟨fun h => ?_, addItems_of_blamesFirst⟩
  obtain ⟨labels, spelled, fresh⟩ | ⟨fault', blames⟩ := spelled_or_blamesFirst m.nodup_names items
  · obtain ⟨made, -, run⟩ := addItems_append spelled fresh
    have last := run []
    rw [List.append_nil, h] at last
    cases last
  · cases (addItems_of_blamesFirst blames).symm.trans h
    exact blames

theorem ofArguments_eq_ok_iff {name : String} : ofArguments name items = .ok m ↔
    ∃ labels, List.Forall₂ Spells items labels ∧ (nameLabel :: labels.map Prod.fst).Nodup ∧
      m.labels = (nameLabel, name) :: labels :=
  addItems_eq_ok_iff

theorem name?_of_ofArguments {name : String} (h : ofArguments name items = .ok m) :
    m.name? = some name := by
  obtain ⟨labels, -, -, hl⟩ := ofArguments_eq_ok_iff.1 h
  rw [name?_eq_some_iff, hl]
  exact List.mem_cons_self

theorem exists_ofArguments_iff {name : String} : (∃ m, ofArguments name items = .ok m) ↔
    ∃ labels, List.Forall₂ Spells items labels ∧ (nameLabel :: labels.map Prod.fst).Nodup := by
  simp only [ofArguments_eq_ok_iff]
  constructor
  · rintro ⟨m, labels, spelled, fresh, -⟩
    exact ⟨labels, spelled, fresh⟩
  · rintro ⟨labels, spelled, fresh⟩
    exact ⟨⟨(nameLabel, name) :: labels, fresh⟩, labels, spelled, fresh, rfl⟩

theorem spells_itemOf {labels : List (String × String)}
    (h : ∀ e ∈ labels, e.1 ≠ "" ∧ '=' ∉ e.1.toList) :
    List.Forall₂ Spells (labels.map itemOf) labels := by
  rw [List.forall₂_map_left_iff, List.forall₂_same]
  exact fun e he => ⟨(h e he).1, (h e he).2, rfl⟩

theorem exists_ofArguments_itemOf {name : String} (named : m.name? = some name)
    (spellable : ∀ label ∈ m.names, label ≠ "" ∧ '=' ∉ label.toList)
    {order : List (String × String)} (perm : order.Perm (m.labels.filter (·.1 ≠ nameLabel))) :
    ∃ m', ofArguments name (order.map itemOf) = .ok m' ∧ m'.SameLabels m := by
  have same : ((nameLabel, name) :: order).Perm m.labels :=
    ((perm.trans m.others_perm.symm).cons _).trans (labels_perm named).symm
  have fresh : (((nameLabel, name) :: order).map Prod.fst).Nodup :=
    (same.map Prod.fst).nodup_iff.2 m.distinct
  refine ⟨⟨(nameLabel, name) :: order, fresh⟩, ?_, sameLabels_iff_perm.2 same⟩
  refine ofArguments_eq_ok_iff.2 ⟨order, spells_itemOf fun e he => spellable e.1 ?_, fresh, rfl⟩
  exact mem_names_iff.2 ⟨e.2, same.mem_iff.1 (List.mem_cons_of_mem _ he)⟩

/-- Items make a metric exactly if they spell labels with different names, none of them that of
the metric; it then has these labels behind its name, and no others. If they make none, it is the
first item that spells no label, or one whose name stands in front of it, that is blamed. And every
metric whose names items can spell is made by its labels in any order. -/
theorem ofArguments_follows_items (name : String) (items : List String) :
    ((∃ m, ofArguments name items = .ok m) ↔
      ∃ labels, List.Forall₂ Spells items labels ∧ (nameLabel :: labels.map Prod.fst).Nodup) ∧
    (∀ m, ofArguments name items = .ok m ↔
      ∃ labels, List.Forall₂ Spells items labels ∧ (nameLabel :: labels.map Prod.fst).Nodup ∧
        m.labels = (nameLabel, name) :: labels) ∧
    (∀ failure, (ofArguments name items).mapError ItemFault.failure = .error failure ↔
      ∃ before item after labels, items = before ++ item :: after ∧
        List.Forall₂ Spells before labels ∧ (nameLabel :: labels.map Prod.fst).Nodup ∧
        ((¬ ∃ e, Spells item e) ∧
            failure = ⟨.validation, "Labels must be given as key=value", [("label", .str item)]⟩ ∨
          ∃ e, Spells item e ∧ e.1 ∈ nameLabel :: labels.map Prod.fst ∧
            failure = ⟨.validation, "Duplicate label", [("label", .str e.1)]⟩)) ∧
    ∀ m : Metric, m.name? = some name → (∀ label ∈ m.names, label ≠ "" ∧ '=' ∉ label.toList) →
      ∀ order : List (String × String), order.Perm (m.labels.filter (·.1 ≠ nameLabel)) →
        ∃ m', ofArguments name (order.map itemOf) = .ok m' ∧ m'.SameLabels m := by
  refine ⟨exists_ofArguments_iff, fun m => ofArguments_eq_ok_iff, fun failure => ?_,
    fun m named spellable order perm => exists_ofArguments_itemOf named spellable perm⟩
  rw [mapError_eq_error_iff]
  simp only [ofArguments, addItems_eq_error_iff]
  constructor
  · rintro ⟨fault, ⟨before, item, after, labels, split, spelled, fresh, blamed⟩, rfl⟩
    refine ⟨before, item, after, labels, split, spelled, fresh, ?_⟩
    cases blamed with
    | noKey none => exact .inl ⟨none, rfl⟩
    | duplicate here known => exact .inr ⟨_, here, known, rfl⟩
  · rintro ⟨before, item, after, labels, split, spelled, fresh, ⟨none, rfl⟩ | ⟨e, here, known, rfl⟩⟩
    · exact ⟨_, ⟨before, item, after, labels, split, spelled, fresh, .noKey none⟩, rfl⟩
    · exact ⟨_, ⟨before, item, after, labels, split, spelled, fresh, .duplicate here known⟩, rfl⟩

theorem ofArguments_follows_items_sample :
    (∃ m', ofArguments "up" ["job=a=b", "env="] = .ok m' ∧
      m'.SameLabels (.ofList [("env", ""), (nameLabel, "up"), ("job", "a=b")])) ∧
    (ofArguments "up" ["job=a", "__name__=b", "=c"]).mapError ItemFault.failure =
      .error ⟨.validation, "Duplicate label", [("label", .str "__name__")]⟩ := by
  have job : Spells "job=a" ("job", "a") := ⟨by decide, by decide, rfl⟩
  have again : Spells "__name__=b" (nameLabel, "b") := ⟨by decide, by decide, rfl⟩
  refine ⟨(ofArguments_follows_items "up" []).2.2.2
    (.ofList [("env", ""), (nameLabel, "up"), ("job", "a=b")]) rfl (by decide)
    [("job", "a=b"), ("env", "")] (by decide), ?_⟩
  exact ((ofArguments_follows_items "up" _).2.2.1 _).2 ⟨["job=a"], "__name__=b", ["=c"],
    [("job", "a")], rfl, .cons job .nil, by decide, .inr ⟨_, again, by simp, rfl⟩⟩

end Metric
end MetricPaths
