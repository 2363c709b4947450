import MetricPaths.Proofs.Template.Blind

/-! Computations that only read. An operation that leaves the heap as it is gives a result, and a
computation that is made of such operations leaves the whole machine as it is. -/
namespace MetricPaths
namespace Template

namespace Op

variable {α β : Type}

def outcome (x : Op α) (h : Heap) : Outcome α := (x.run.run h).1

/-- An operation that leaves the heap as it is. -/
def Reads (x : Op α) : Prop := ∀ h : Heap, (x.run.run h).2 = h

theorem run_bind (x : Op α) (f : α → Op β) (h : Heap) :
    (x >>= f).run.run h = match x.run.run h with
      | (.ok a, h) => (f a).run.run h
      | (.error fault, h) => (.error fault, h) := by
  rcases hx : x.run.run h with ⟨_ | a, h'⟩ <;>
    simp only [ExceptT.run_bind, StateT.run_bind] at hx ⊢ <;> rw [hx] <;> rfl

theorem Reads.pure (a : α) : Reads (pure a : Op α) := fun _ => rfl

theorem Reads.throw (fault : RenderFault) : Reads (throw fault : Op α) := fun _ => rfl

theorem Reads.bind {x : Op α} {f : α → Op β} (hx : x.Reads) (hf : ∀ a, (f a).Reads) :
    (x >>= f).Reads := by
  intro h
  rw [run_bind]
  have same := hx h
  rcases hr : x.run.run h with ⟨fault | a, h'⟩
  · rwa [hr] at same
  · rw [hr] at same
    obtain rfl := same
    exact hf a _

theorem Reads.lift (outcome : Outcome α) : Reads (Op.lift outcome) := by
  cases outcome with
  | ok a => exact .pure a
  | error fault => exact .throw fault

theorem outcome_bind {x : Op α} (hx : x.Reads) (f : α → Op β) (h : Heap) :
    (x >>= f).outcome h = x.outcome h >>= fun a => (f a).outcome h := by
  have same := hx h
  unfold outcome
  rw [run_bind]
  rcases hr : x.run.run h with ⟨fault | a, h'⟩
  · rfl
  · rw [hr] at same
    obtain rfl := same
    rfl

theorem outcome_lift (r : Outcome α) (h : Heap) : (Op.lift r).outcome h = r := by
  cases r <;> rfl

theorem reads_store : Reads Op.store := fun _ => rfl

theorem reads_text (d : Datum) : Reads (Op.text d) := reads_store.bind fun _ => .lift _

theorem outcome_text (d : Datum) (h : Heap) : (Op.text d).outcome h = d.text h.store := by
  rw [Op.text, outcome_bind reads_store]
  exact outcome_lift _ h

theorem reads_literal (d : Datum) : Reads (Op.literal d) := reads_store.bind fun _ => .lift _

end Op

namespace Access
open Op

theorem reads_member (d : Datum) (name : String) : Reads (member d name) := by
  unfold member
  split
  · exact .pure _
  · exact .pure _
  · split
    · exact .pure _
    · exact .throw _
  · refine reads_store.bind fun _ => ?_
    split
    · exact .pure _
    · split_ifs <;> exact .pure _
  · split
    · exact .pure _
    · split_ifs <;> exact .pure _
  · split_ifs <;> exact .pure _
  · exact .pure _

theorem reads_otherwise (d index : Datum) : Reads (otherwise d index) := by
  unfold otherwise
  split
  · split
    · exact .pure _
    · exact .pure _
    · exact reads_member _ _
  · exact (reads_literal _).bind fun _ => .pure _

theorem reads_entry (d index : Datum) (es : List (Datum × Datum)) : Reads (do
    match ← Op.lift (Datum.lookup (← store) index es) with
    | some v => return v
    | none => otherwise d index) := by
  refine reads_store.bind fun _ => (Reads.lift _).bind fun _ => ?_
  split
  · exact .pure _
  · exact reads_otherwise _ _

theorem reads_item (d index : Datum) : Reads (item d index) := by
  unfold item
  split
  · exact .throw _
  · split
    · exact .throw _
    · split_ifs
      · exact reads_otherwise _ _
      · exact reads_entry _ _ _
  · split
    · exact .throw _
    · split_ifs
      · exact reads_otherwise _ _
      · exact reads_entry _ _ _
  · split_ifs
    · split
      · refine reads_store.bind fun _ => ?_
        split
        · exact .pure _
        · exact (reads_literal _).bind fun _ => .pure _
      · exact reads_otherwise _ _
    · exact reads_otherwise _ _

end Access

namespace Eval

variable {α β γ : Type} {m : Machine}

/-- A computation that gives a result and leaves the machine as it is. -/
def Gives (m : Machine) (x : Eval α) (r : Outcome α) : Prop := exec x m = (r, m)

theorem Gives.pure (a : α) : Gives m (pure a) (.ok a) := rfl

theorem Gives.fail : Gives m (fail : Eval α) (.error .untold) := rfl

theorem Gives.bind {x : Eval α} {f : α → Eval β} {r : Outcome α} {g : α → Outcome β}
    (hx : Gives m x r) (hf : ∀ a, r = .ok a → Gives m (f a) (g a)) :
    Gives m (x >>= f) (r >>= g) := by
  rw [Gives, exec_bind, hx]
  cases r with
  | error fault => rfl
  | ok a => exact hf a rfl

theorem Gives.bind_ok {x : Eval α} {f : α → Eval β} {a : α} {r : Outcome β}
    (hx : Gives m x (.ok a)) (hf : Gives m (f a) r) : Gives m (x >>= f) r := by
  rw [Gives, exec_bind, hx]
  exact hf

theorem Gives.lift {op : Op α} (h : op.Reads) : Gives m (monadLift op) (op.outcome m.heap) := by
  have made : exec (monadLift op : Eval α) m =
      (op.outcome m.heap, m.withHeap (op.run.run m.heap).2) := rfl
  rw [Gives, made, h m.heap]
  rfl

theorem Gives.mapM {xs : List γ} {f : γ → Eval α} {g : γ → Outcome α}
    (h : ∀ x ∈ xs, Gives m (f x) (g x)) : Gives m (xs.mapM f) (xs.mapM g) := by
  induction xs with
  | nil => rfl
  | cons x rest ih =>
    obtain ⟨here, others⟩ := List.forall_mem_cons.1 h
    rw [List.mapM_cons, List.mapM_cons]
    exact here.bind fun a _ => (ih others).bind fun as _ => .pure (a :: as)

end Eval
end Template
end MetricPaths
