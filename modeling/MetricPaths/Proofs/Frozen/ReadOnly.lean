import MetricPaths.Proofs.Batch
import MetricPaths.Proofs.Session

/-! Which frozen data is read-only. Freezing stops at tuples, sets and keys; whatever can be
changed and stands there, templates can change for the translations after them. -/
namespace MetricPaths
namespace Value

def isMutable : Value → Bool
  | .list _ | .map _ | .set _ => true
  | _ => false

def parts : Value → List Value
  | .list items | .tuple items | .set items => items
  | .map entries | .view entries => entries.flatMap fun e => [e.1, e.2]
  | _ => []

/-- What stands in a value at any depth, itself included. -/
inductive Reaches : Value → Value → Prop
  | here (v : Value) : Reaches v v
  | within {v part w : Value} : part ∈ v.parts → Reaches part w → Reaches v w

def ReadOnly (v : Value) : Prop := ∀ w, v.Reaches w → w.isMutable = false

mutual

def isReadOnly : Value → Bool
  | .list _ | .map _ | .set _ => false
  | .tuple items => areReadOnly items
  | .view entries => entriesAreReadOnly entries
  | _ => true

def areReadOnly : List Value → Bool
  | [] => true
  | v :: rest => v.isReadOnly && areReadOnly rest

def entriesAreReadOnly : List (Value × Value) → Bool
  | [] => true
  | (k, v) :: rest => k.isReadOnly && v.isReadOnly && entriesAreReadOnly rest

end

mutual

/-- Whether freezing finds everything that can be changed: there is no set, and tuples and
keys hold nothing of the kind. -/
def isFreezable : Value → Bool
  | .set _ => false
  | .tuple items => areReadOnly items
  | .list items => areFreezable items
  | .map entries | .view entries => entriesAreFreezable entries
  | _ => true

def areFreezable : List Value → Bool
  | [] => true
  | v :: rest => v.isFreezable && areFreezable rest

def entriesAreFreezable : List (Value × Value) → Bool
  | [] => true
  | (k, v) :: rest => k.isReadOnly && v.isFreezable && entriesAreFreezable rest

end

theorem areReadOnly_eq_all (items : List Value) : areReadOnly items = items.all isReadOnly := by
  induction items with
  | nil => rfl
  | cons v rest ih => rw [areReadOnly, List.all_cons, ih]

theorem entriesAreReadOnly_eq_all (entries : List (Value × Value)) :
    entriesAreReadOnly entries = (entries.flatMap fun e => [e.1, e.2]).all isReadOnly := by
  induction entries with
  | nil => rfl
  | cons e rest ih => simp [entriesAreReadOnly, ih, Bool.and_assoc]

theorem isReadOnly_eq (v : Value) : v.isReadOnly = (!v.isMutable && v.parts.all isReadOnly) := by
  cases v with
  | tuple items => simp [isReadOnly, isMutable, parts, areReadOnly_eq_all]
  | view entries => simp [isReadOnly, isMutable, parts, entriesAreReadOnly_eq_all]
  | _ => rfl

theorem ReadOnly.part {v part : Value} (h : v.ReadOnly) (hp : part ∈ v.parts) : part.ReadOnly :=
  fun w reached => h w (.within hp reached)

theorem sizeOf_lt_of_mem_parts {v part : Value} (h : part ∈ v.parts) : sizeOf part < sizeOf v := by
  cases v with
  | list items | tuple items | set items =>
    have inner : sizeOf part < sizeOf items := List.sizeOf_lt_of_mem h
    simp
    omega
  | map entries | view entries =>
    obtain ⟨⟨k, v⟩, he, hp⟩ := List.mem_flatMap.1 h
    have inner := List.sizeOf_lt_of_mem he
    simp only [Prod.mk.sizeOf_spec] at inner
    simp only [List.mem_cons, List.not_mem_nil, or_false] at hp
    rcases hp with rfl | rfl <;> simp <;> omega
  | _ => exact absurd h List.not_mem_nil

/-- Nothing that can be changed is reached exactly if the recursion finds none. -/
theorem isReadOnly_iff {v : Value} : v.isReadOnly = true ↔ v.ReadOnly := by
  constructor
  · intro h w reached
    induction reached with
    | here v =>
      rw [isReadOnly_eq, Bool.and_eq_true, Bool.not_eq_true'] at h
      exact h.1
    | within hp _ ih =>
      rw [isReadOnly_eq, Bool.and_eq_true, List.all_eq_true] at h
      exact ih (h.2 _ hp)
  · intro h
    rw [isReadOnly_eq, Bool.and_eq_true, Bool.not_eq_true', List.all_eq_true]
    exact ⟨h v (.here v), fun part hp => isReadOnly_iff.2 (h.part hp)⟩
termination_by sizeOf v
decreasing_by exact sizeOf_lt_of_mem_parts hp

instance (v : Value) : Decidable v.ReadOnly := decidable_of_iff _ isReadOnly_iff

mutual

theorem isReadOnly_freeze (v : Value) : v.freeze.isReadOnly = v.isFreezable := by
  cases v with
  | list items => exact areReadOnly_freezeAll items
  | map entries | view entries => exact entriesAreReadOnly_freezeEntries entries
  | null | bool | int | float | str | tuple | set | bytes | day | moment => rfl

theorem areReadOnly_freezeAll (items : List Value) :
    areReadOnly (freezeAll items) = areFreezable items := by
  cases items with
  | nil => rfl
  | cons v rest =>
    rw [freezeAll, areReadOnly, areFreezable, isReadOnly_freeze v, areReadOnly_freezeAll rest]

theorem entriesAreReadOnly_freezeEntries (entries : List (Value × Value)) :
    entriesAreReadOnly (freezeEntries entries) = entriesAreFreezable entries := by
  cases entries with
  | nil => rfl
  | cons e rest =>
    obtain ⟨k, v⟩ := e
    rw [freezeEntries, entriesAreReadOnly, entriesAreFreezable, isReadOnly_freeze v,
      entriesAreReadOnly_freezeEntries rest]

end

end Value

namespace Template.Store

mutual

/-- Values that cannot be changed need no cells. -/
theorem load_of_isReadOnly (store : Store) (v : Value) (h : v.isReadOnly) :
    (load store v).2 = store := by
  cases v with
  | tuple items =>
    simp only [load]
    exact loadAll_of_areReadOnly store items h
  | view entries =>
    simp only [load]
    exact loadEntries_of_entriesAreReadOnly store entries h
  | list | map | set => exact absurd h Bool.false_ne_true
  | null | bool | int | float | str | bytes | day | moment => rfl

theorem loadAll_of_areReadOnly (store : Store) (items : List Value)
    (h : Value.areReadOnly items) : (loadAll store items).2 = store := by
  cases items with
  | nil => rfl
  | cons v rest =>
    rw [Value.areReadOnly, Bool.and_eq_true] at h
    simp only [loadAll]
    rw [load_of_isReadOnly store v h.1, loadAll_of_areReadOnly store rest h.2]

theorem loadEntries_of_entriesAreReadOnly (store : Store) (entries : List (Value × Value))
    (h : Value.entriesAreReadOnly entries) : (loadEntries store entries).2 = store := by
  cases entries with
  | nil => rfl
  | cons e rest =>
    obtain ⟨k, v⟩ := e
    rw [Value.entriesAreReadOnly, Bool.and_eq_true, Bool.and_eq_true] at h
    simp only [loadEntries]
    rw [load_of_isReadOnly store k h.1.1, load_of_isReadOnly store v h.1.2,
      loadEntries_of_entriesAreReadOnly store rest h.2]

end

end Template.Store

namespace Translator
open Template (Shared)

theorem harmless_of_isEmpty {t : Translator} {metric : Metric} {shared : Shared}
    (h : shared.store.isEmpty = true) : t.Harmless metric shared :=
  harmless_of_spares fun _ _ _ _ => .inl h

theorem each_shared {t : Translator} {metrics : List Metric} {shared : Shared}
    (harmless : ∀ metric ∈ metrics, t.Harmless metric shared) :
    (t.each metrics shared).shared = shared := by
  induction metrics with
  | nil => rfl
  | cons metric rest ih =>
    obtain ⟨here, others⟩ := List.forall_mem_cons.1 harmless
    have left_eq := here.paths_left
    rcases h : t.paths metric shared with ⟨fault | found, left⟩ <;>
      obtain rfl : left = shared := by rwa [h] at left_eq
    · rcases paths_error_problem h with ⟨failure, hp, free⟩ | ⟨a, rfl⟩
      · rw [each_cons_of_failure h hp free]
        exact ih others
      · rw [each_cons_of_accident rest h]
    · rw [each_cons_of_ok h]
      exact ih others

theorem batch_shared {t : Translator} {metrics : List Metric} {shared : Shared}
    (harmless : ∀ metric ∈ metrics, t.Harmless metric shared) :
    (t.batch metrics shared).shared = shared := by
  cases h : (t.each metrics shared).accident with
  | none =>
    rw [batch_of_ended h]
    exact each_shared harmless
  | some a =>
    rw [batch_of_accident (by rw [h]; rfl)]
    exact each_shared harmless

end Translator

namespace Config

theorem isEmpty_store_shared {c : Config} (h : c.data.ReadOnly) :
    c.shared.store.isEmpty = true := by
  have loaded := Template.Store.load_of_isReadOnly #[] c.data (Value.isReadOnly_iff.2 h)
  change (Template.Shared.ofValue c.data).store.isEmpty = true
  rw [Template.Shared.ofValue]
  dsimp only
  rw [loaded]
  rfl

/-- The data of a loaded configuration is read-only exactly if freezing finds everything in
its document that can be changed. No translation changes read-only data, neither that of one
metric nor a batch, so that each metric of a batch has the paths it has alone, unless an accident
ends the batch. -/
theorem readOnly_data_iff {document : Value} {settings : Settings} {c : Config}
    (h : ofValue document settings = .ok c) :
    (c.data.ReadOnly ↔ Value.entriesAreFreezable ((dataOf document).entries?.getD []) = true) ∧
    (c.data.ReadOnly → ∀ t : Translator,
      (∀ metric, (t.paths metric c.shared).2 = c.shared) ∧
      ∀ metrics, (t.batch metrics c.shared).shared = c.shared ∧
        (t.batch metrics c.shared).results =
          if (t.batch metrics c.shared).accident.isSome then []
          else metrics.filterMap (t.outcome? c.shared)) := by
  obtain ⟨root, write, data, _, _, hroot, hwrite, hdata, -, -, -, -, -, hfrozen⟩ :=
    ofValue_eq_ok_iff.1 h
  constructor
  · rw [← Value.isReadOnly_iff, hfrozen, Value.isReadOnly_freeze, Value.isFreezable,
      eq_of_mappingOr hdata, eq_of_mappingOr hwrite, eq_of_mappingOr hroot, dataOf]
  · intro readOnly t
    have harmless (metric : Metric) : t.Harmless metric c.shared :=
      Translator.harmless_of_isEmpty (isEmpty_store_shared readOnly)
    refine ⟨fun metric => (harmless metric).paths_left, fun metrics => ?_⟩
    exact ⟨Translator.batch_shared fun metric _ => harmless metric,
      Translator.results_batch fun metric _ => harmless metric⟩

def pairsDocument : Value :=
  .map [(.str "write", .map [(.str "template_data",
    .map [(.str "zones", .list [.tuple [.str "eu", .str "a"], .tuple [.str "us", .str "b"]])])])]

theorem readOnly_data_sample : ∃ c, ofValue pairsDocument .standard = .ok c ∧
    Value.entriesAreFreezable ((dataOf pairsDocument).entries?.getD []) = true ∧
    c.data.ReadOnly ∧
    ∀ metrics, (c.translator.batch metrics c.shared).shared = c.shared := by
  have freezable : Value.entriesAreFreezable ((dataOf pairsDocument).entries?.getD []) = true := by
    decide
  have loads : (ofValue pairsDocument .standard).toOption.isSome = true := by decide
  cases hc : ofValue pairsDocument .standard with
  | error problem => simp [hc, Except.toOption] at loads
  | ok c =>
    obtain ⟨exactly, spared⟩ := readOnly_data_iff hc
    have readOnly := exactly.2 freezable
    exact ⟨c, rfl, freezable, readOnly, fun metrics => ((spared readOnly c.translator).2 metrics).1⟩

/-- Its template lengthens a list within a pair and tells how long the list is then. -/
def growingDocument : Value :=
  .map [(.str "write", .map [
    (.str "template_data", .map [(.str "zones", .list [.tuple [.str "eu", .list [.str "a"]]])]),
    (.str "rules", .list [.map [(.str "template", .str
      ("{% set _ = shared.zones[0][1].append(1) %}" ++
        "{{ shared.zones[0][1] | length }}"))]])])]

/-- The same metric has another path the second time. -/
theorem data_of_growingDocument : ∃ c, ofValue growingDocument .standard = .ok c ∧
    ¬ c.data.ReadOnly ∧
    (c.translator.batch (List.replicate 2 (.ofList [(nameLabel, "up")])) c.shared).results.map (·.2) =
      [["2"], ["3"]] := by
  have grows : ((ofValue growingDocument .standard).toOption.any fun c =>
      ¬ c.data.ReadOnly ∧
        (c.translator.batch (List.replicate 2 (.ofList [(nameLabel, "up")])) c.shared).results.map
          (·.2) = [["2"], ["3"]]) = true := by
    decide +kernel
  cases hc : ofValue growingDocument .standard with
  | error problem => simp [hc, Except.toOption] at grows
  | ok c =>
    rw [hc, Except.toOption, Option.any_some, decide_eq_true_iff] at grows
    exact ⟨c, rfl, grows⟩

end Config
end MetricPaths
