import MetricPaths.Proofs.Frozen.ReadOnly
import MetricPaths.Proofs.Template.Labels

/-! Documents as data of templates. What a template can come to from loaded data is itself
loaded from a value of the document, and a mapping is found to have the text keys that it has
in the document. -/
namespace MetricPaths
namespace Template

namespace Datum

def parts (store : Store) : Datum → List Datum
  | .tuple items | .set items => items
  | .dict es | .view es => es.flatMap fun e => [e.1, e.2]
  | .list address => store.list? address
  | _ => []

/-- What stands in a value at any depth, itself included. -/
inductive Reaches (store : Store) : Datum → Datum → Prop
  | here (d : Datum) : Reaches store d d
  | within {d part other : Datum} :
    part ∈ d.parts store → Reaches store part other → Reaches store d other

theorem field?_cons (name : String) (k d : Datum) (rest : List (Datum × Datum)) :
    field? name ((k, d) :: rest) = if k.keyText? = some name then some d else field? name rest := by
  cases k <;> simp [field?, keyText?]

end Datum

namespace Store

/-- All cells stand where they stood; others can follow them. -/
def Kept (store final : Store) : Prop := store.toList <+: final.toList

theorem Kept.trans {s t u : Store} (h : Kept s t) (h' : Kept t u) : Kept s u :=
  List.IsPrefix.trans h h'

theorem kept_push (store : Store) (cell : Cell) : Kept store (store.push cell) := by
  rw [Kept, Array.toList_push]
  exact List.prefix_append _ _

/-- A list that was put at the end is found at its address from then on. -/
theorem Kept.list?_size {store final : Store} {items : List Datum}
    (h : Kept (store.push (.list items)) final) : final.list? store.size = items := by
  obtain ⟨more, hm⟩ := h
  have found : final[store.size]? = some (.list items) := by
    rw [← Array.getElem?_toList, ← hm, Array.toList_push]
    simp
  rw [list?, found]

mutual

theorem kept_load (store : Store) (v : Value) : Kept store (load store v).2 := by
  cases v with
  | list items => exact (kept_loadAll store items).trans (kept_push _ _)
  | tuple items | set items => exact kept_loadAll store items
  | map entries | view entries => exact kept_loadEntries store entries
  | null | bool | int | float | str | bytes | day | moment => exact List.prefix_rfl

theorem kept_loadAll (store : Store) (items : List Value) : Kept store (loadAll store items).2 := by
  cases items with
  | nil => exact List.prefix_rfl
  | cons v rest => exact (kept_load store v).trans (kept_loadAll _ rest)

theorem kept_loadEntries (store : Store) (entries : List (Value × Value)) :
    Kept store (loadEntries store entries).2 := by
  cases entries with
  | nil => exact List.prefix_rfl
  | cons e rest =>
    exact ((kept_load store e.1).trans (kept_load _ e.2)).trans (kept_loadEntries _ rest)

end

/-- A value of a document is what is found in the store, whenever it was put there. -/
def Holds (final : Store) (v : Value) (d : Datum) : Prop :=
  ∃ before, (load before v).1 = d ∧ Kept (load before v).2 final

theorem holds_loadAll {before final : Store} {items : List Value}
    (h : Kept (loadAll before items).2 final) :
    List.Forall₂ (Holds final) items (loadAll before items).1 := by
  induction items generalizing before with
  | nil => exact .nil
  | cons v rest ih => exact .cons ⟨before, rfl, (kept_loadAll _ rest).trans h⟩ (ih h)

def HoldsEntry (final : Store) (e : Value × Value) (f : Datum × Datum) : Prop :=
  Holds final e.1 f.1 ∧ Holds final e.2 f.2

theorem holds_loadEntries {before final : Store} {entries : List (Value × Value)}
    (h : Kept (loadEntries before entries).2 final) :
    List.Forall₂ (HoldsEntry final) entries (loadEntries before entries).1 := by
  induction entries generalizing before with
  | nil => exact .nil
  | cons e rest ih =>
    have value := (kept_loadEntries _ rest).trans h
    exact .cons ⟨⟨before, rfl, (kept_load _ e.2).trans value⟩, ⟨_, rfl, value⟩⟩ (ih h)

variable {final : Store} {v : Value} {d : Datum}

theorem Holds.missing? (h : Holds final v d) : d.missing? = none := by
  obtain ⟨before, rfl, -⟩ := h
  cases v <;> rfl

theorem Holds.keyText?_eq_some_iff (h : Holds final v d) {name : String} :
    d.keyText? = some name ↔ v.sameKey (.str name) = true := by
  obtain ⟨before, rfl, -⟩ := h
  cases v <;> simp [load, Datum.keyText?, Value.sameKey, Value.integer?]

theorem Holds.entries? {es : List (Datum × Datum)} (h : Holds final v d) (hd : d.entries? = some es) :
    ∃ entries, v.entries? = some entries ∧ List.Forall₂ (HoldsEntry final) entries es := by
  obtain ⟨before, rfl, kept⟩ := h
  cases v with
  | map entries | view entries =>
    cases hd
    exact ⟨entries, rfl, holds_loadEntries kept⟩
  | _ => cases hd

theorem held_parts_of_entries {entries : List (Value × Value)} {es : List (Datum × Datum)}
    (each : List.Forall₂ (HoldsEntry final) entries es) : List.Forall₂ (Holds final)
      (entries.flatMap fun e => [e.1, e.2]) (es.flatMap fun e => [e.1, e.2]) :=
  List.rel_flatMap each fun _ _ held => .cons held.1 (.cons held.2 .nil)

theorem Holds.exists_of_mem_parts (h : Holds final v d) {part : Datum} (hp : part ∈ d.parts final) :
    ∃ u ∈ v.parts, Holds final u part := by
  obtain ⟨before, rfl, kept⟩ := h
  cases v with
  | list items =>
    have inside : part ∈ (loadAll before items).1 := by
      rw [← kept.list?_size]
      exact hp
    exact exists_of_mem_forall₂ (holds_loadAll ((kept_push _ _).trans kept)) inside
  | tuple items | set items => exact exists_of_mem_forall₂ (holds_loadAll kept) hp
  | map entries | view entries =>
    exact exists_of_mem_forall₂ (held_parts_of_entries (holds_loadEntries kept)) hp
  | _ => exact absurd hp List.not_mem_nil

/-- What is come to from something loaded is loaded from something in it. -/
theorem Holds.exists_of_reaches {other : Datum} (h : Holds final v d) (reached : d.Reaches final other) :
    ∃ u, v.Reaches u ∧ Holds final u other := by
  induction reached generalizing v with
  | here d => exact ⟨v, .here v, h⟩
  | within hp _ ih =>
    obtain ⟨part, inside, held⟩ := h.exists_of_mem_parts hp
    obtain ⟨u, further, loaded⟩ := ih held
    exact ⟨u, .within inside further, loaded⟩

theorem rel_field? {entries : List (Value × Value)} {es : List (Datum × Datum)}
    (each : List.Forall₂ (HoldsEntry final) entries es) (name : String) :
    Option.Rel (Holds final) (Value.field? name entries) (Datum.field? name es) := by
  induction each with
  | nil => exact .none
  | @cons e f rest more held _ ih =>
    rw [Datum.field?_cons, Value.field?, Value.find?, List.find?_cons]
    by_cases here : e.1.sameKey (.str name)
    · rw [here, if_pos (held.1.keyText?_eq_some_iff.2 here)]
      exact .some held.2
    · rw [if_neg (mt held.1.keyText?_eq_some_iff.1 here)]
      simp only [here]
      exact ih

end Store
end Template
end MetricPaths
