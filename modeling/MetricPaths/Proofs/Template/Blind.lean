import MetricPaths.Proofs.Except
import MetricPaths.Proofs.Template.Lookup

/-! Computations that do not see the order of labels: they do the same if the labels are given
as another mapping, and leave machines that differ in the labels only. Operations on values are
of this kind by their type, since they have no access to names. -/
namespace MetricPaths
namespace Template

namespace Frame

def relabelEntry (w : Datum) (e : String × Datum) : String × Datum :=
  if e.1 = labelsName then (e.1, w) else e

def relabel (w : Datum) (f : Frame) : Frame := { f with names := f.names.map (relabelEntry w) }

/-- Where the labels are known, they are `v`, and all macros look labels up by name. -/
structure Sound (v : Datum) (f : Frame) : Prop where
  labels : ∀ e ∈ f.names, e.1 = labelsName → e.2 = v
  macros : ∀ called ∈ f.macros, called.looksUp

theorem fst_relabelEntry (w : Datum) (e : String × Datum) : (relabelEntry w e).1 = e.1 := by
  unfold relabelEntry
  split_ifs <;> rfl

theorem lookup_relabel {w : Datum} (names : List (String × Datum)) {name : String}
    (h : name ≠ labelsName) : (names.map (relabelEntry w)).lookup name = names.lookup name := by
  induction names with
  | nil => rfl
  | cons e rest ih =>
    obtain ⟨key, d⟩ := e
    by_cases hk : key = labelsName
    · have other : (name == labelsName) = false := by simpa using h
      simp [relabelEntry, hk, List.lookup_cons, ih, other]
    · simp [relabelEntry, hk, List.lookup_cons, ih]

theorem lookup_labels_relabel {w : Datum} (names : List (String × Datum)) :
    (names.map (relabelEntry w)).lookup labelsName = (names.lookup labelsName).map fun _ => w := by
  induction names with
  | nil => rfl
  | cons e rest ih =>
    obtain ⟨key, d⟩ := e
    by_cases hk : key = labelsName
    · simp [relabelEntry, hk]
    · have other : (labelsName == key) = false := by simpa using Ne.symm hk
      simp [relabelEntry, hk, List.lookup_cons, other, ih]

theorem Sound.eq_of_lookup {v d : Datum} {f : Frame} (h : f.Sound v)
    (hd : f.names.lookup labelsName = some d) : d = v := by
  obtain ⟨before, behind, split, -⟩ := List.lookup_eq_some_iff.1 hd
  exact h.labels (labelsName, d) (by simp [split]) rfl

theorem Sound.bind {v value : Datum} {f : Frame} {name : String} (h : f.Sound v)
    (hn : name ≠ labelsName) : (f.bind name value).Sound v := by
  refine ⟨fun e he hl => ?_, h.macros⟩
  rcases List.mem_cons.1 he with rfl | he
  · exact absurd hl hn
  · exact h.labels e (List.mem_filter.1 he).1 hl

theorem Sound.keep {v : Datum} {f : Frame} {called : Macro} (h : f.Sound v)
    (hc : called.looksUp) : (f.keep called).Sound v := by
  refine ⟨h.labels, fun other ho => ?_⟩
  rcases List.mem_append.1 ho with ho | ho
  · exact h.macros other ho
  · rwa [List.mem_singleton.1 ho]

theorem relabel_bind {w : Datum} {name : String} (hn : name ≠ labelsName) (value : Datum)
    (f : Frame) :
    (f.bind name value).relabel w = (f.relabel w).bind name value := by
  have kept : (f.names.filter (·.1 ≠ name)).map (relabelEntry w) =
      (f.names.map (relabelEntry w)).filter (·.1 ≠ name) := by
    rw [List.filter_map]
    refine congrArg (List.map _) (List.filter_congr fun e _ => ?_)
    simp [fst_relabelEntry]
  simp only [Frame.bind, relabel, List.map_cons, kept, relabelEntry, if_neg hn]

end Frame

namespace Machine

def relabel (w : Datum) (m : Machine) : Machine :=
  { m with frames := m.frames.map (Frame.relabel w) }

def Sound (v : Datum) (m : Machine) : Prop :=
  ∀ (i : Nat) (f : Frame), m.frames[i]? = some f → f.Sound v

theorem getElem?_relabel (w : Datum) (m : Machine) (i : Nat) :
    (m.relabel w).frames[i]? = (m.frames[i]?).map (Frame.relabel w) := Array.getElem?_map

theorem size_relabel (w : Datum) (m : Machine) :
    (m.relabel w).frames.size = m.frames.size := Array.size_map

theorem relabel_modify {w : Datum} (change : Frame → Frame) (m : Machine) (i : Nat)
    (h : ∀ f, (change f).relabel w = change (f.relabel w)) :
    (m.frames.modify i change).map (Frame.relabel w) = (m.relabel w).frames.modify i change := by
  apply Array.ext_getElem?
  intro j
  rw [Array.getElem?_map, Array.getElem?_modify, Array.getElem?_modify, getElem?_relabel]
  split_ifs
  · cases m.frames[j]? with
    | none => rfl
    | some f => exact congrArg some (h f)
  · rfl

theorem Sound.modify {v : Datum} {m : Machine} {change : Frame → Frame} (i : Nat)
    (hm : m.Sound v) (h : ∀ f : Frame, f.Sound v → (change f).Sound v) :
    ({ m with frames := m.frames.modify i change } : Machine).Sound v := by
  intro j f hf
  rw [Array.getElem?_modify] at hf
  split_ifs at hf
  · obtain ⟨g, hg, rfl⟩ := Option.map_eq_some_iff.1 hf
    exact h g (hm j g hg)
  · exact hm j f hf

theorem Sound.newFrame {v : Datum} {m : Machine} (hm : m.Sound v) :
    ({ m with frames := m.frames.push .empty } : Machine).Sound v := by
  intro i f hf
  rw [Array.getElem?_push] at hf
  split_ifs at hf
  · cases hf
    exact ⟨by simp [Frame.empty], by simp [Frame.empty]⟩
  · exact hm i f hf

def known (m : Machine) (scope : List Nat) (name : String) : Option Datum :=
  scope.findSome? fun i => (m.frames[i]?).bind fun f => f.names.lookup name

theorem known_cons (m : Machine) (i : Nat) (rest : List Nat) (name : String) :
    m.known (i :: rest) name =
      ((m.frames[i]?).bind fun f => f.names.lookup name).or (m.known rest name) := by
  rw [known, List.findSome?_cons]
  cases (m.frames[i]?).bind fun f => f.names.lookup name <;> rfl

/-- The labels are `v` wherever they are known, and are `w` after the change. -/
theorem Sound.known_labels {v : Datum} {m : Machine} (hm : m.Sound v) (w : Datum)
    (scope : List Nat) :
    (m.known scope labelsName = none ∧ (m.relabel w).known scope labelsName = none) ∨
      (m.known scope labelsName = some v ∧ (m.relabel w).known scope labelsName = some w) := by
  induction scope with
  | nil => exact .inl ⟨rfl, rfl⟩
  | cons i rest ih =>
    rw [known_cons, known_cons, getElem?_relabel]
    cases hi : m.frames[i]? with
    | none => exact ih
    | some f =>
      simp only [Option.map_some, Option.bind_some, Frame.relabel, Frame.lookup_labels_relabel]
      cases hd : f.names.lookup labelsName with
      | none => exact ih
      | some d =>
        obtain rfl := (hm i f hi).eq_of_lookup hd
        exact .inr ⟨rfl, rfl⟩

theorem known_relabel (w : Datum) (m : Machine) (scope : List Nat) {name : String}
    (h : name ≠ labelsName) : (m.relabel w).known scope name = m.known scope name := by
  refine congrArg (List.findSome? · scope) (funext fun i => ?_)
  rw [getElem?_relabel]
  cases m.frames[i]? with
  | none => rfl
  | some f => exact Frame.lookup_relabel f.names h

end Machine

namespace Eval

variable {v w : Datum} {α β : Type} {P : α → Prop} {Q : β → Prop}

def exec (x : Eval α) (m : Machine) : Except RenderFault α × Machine := x.run.run m

/-- A computation that does the same with `w` for the labels `v`, and whose result is as it
should be. -/
def BlindTo (v w : Datum) (P : α → Prop) (x : Eval α) : Prop :=
  ∀ m : Machine, m.Sound v → (exec x m).2.Sound v ∧ (∀ a, (exec x m).1 = .ok a → P a) ∧
    exec x (m.relabel w) = ((exec x m).1, (exec x m).2.relabel w)

def Blind (v w : Datum) (x : Eval α) : Prop := BlindTo v w (fun _ => True) x

theorem BlindTo.mono {P' : α → Prop} {x : Eval α} (h : BlindTo v w P x) (hP : ∀ a, P a → P' a) :
    BlindTo v w P' x :=
  fun m hm => ⟨(h m hm).1, fun a ha => hP a ((h m hm).2.1 a ha), (h m hm).2.2⟩

theorem BlindTo.blind {x : Eval α} (h : BlindTo v w P x) : Blind v w x := h.mono fun _ _ => trivial

theorem BlindTo.pure {a : α} (h : P a) : BlindTo v w P (pure a : Eval α) :=
  fun _ hm => ⟨hm, fun _ ha => Except.ok.inj ha ▸ h, rfl⟩

theorem BlindTo.throw (fault : RenderFault) : BlindTo v w P (throw fault : Eval α) :=
  fun _ hm => ⟨hm, fun _ ha => (by cases ha), rfl⟩

theorem BlindTo.fail : BlindTo v w P (fail : Eval α) := .throw .untold

theorem exec_bind (x : Eval α) (f : α → Eval β) (m : Machine) :
    exec (x >>= f) m = match exec x m with
      | (.ok a, m) => exec (f a) m
      | (.error fault, m) => (.error fault, m) := by
  rcases h : exec x m with ⟨_ | a, m'⟩ <;>
    simp only [exec, ExceptT.run_bind, StateT.run_bind] at h ⊢ <;> rw [h] <;> rfl

theorem BlindTo.bind {x : Eval α} {f : α → Eval β} (hx : BlindTo v w P x)
    (hf : ∀ a, P a → BlindTo v w Q (f a)) : BlindTo v w Q (x >>= f) := by
  intro m hm
  obtain ⟨sound, found, same⟩ := hx m hm
  rw [exec_bind, exec_bind, same]
  rcases h : exec x m with ⟨fault | a, m'⟩
  · rw [h] at sound
    exact ⟨sound, fun _ ha => (by cases ha), rfl⟩
  · rw [h] at sound found
    exact hf a (found a rfl) m' sound

theorem Blind.bind {x : Eval α} {f : α → Eval β} (hx : Blind v w x)
    (hf : ∀ a, BlindTo v w Q (f a)) : BlindTo v w Q (x >>= f) := BlindTo.bind hx fun a _ => hf a

theorem exec_tryCatch (x : Eval α) (f : RenderFault → Eval α) (m : Machine) :
    exec (tryCatch x f) m = match exec x m with
      | (.ok a, m) => (.ok a, m)
      | (.error fault, m) => exec (f fault) m := by
  rcases h : exec x m with ⟨_ | a, m'⟩ <;>
    simp only [exec, ExceptT.run_tryCatch, StateT.run_bind] at h ⊢ <;> rw [h] <;> rfl

protected theorem BlindTo.tryCatch {x : Eval α} {f : RenderFault → Eval α} (hx : BlindTo v w P x)
    (hf : ∀ fault, BlindTo v w P (f fault)) : BlindTo v w P (tryCatch x f) := by
  intro m hm
  obtain ⟨sound, found, same⟩ := hx m hm
  rw [exec_tryCatch, exec_tryCatch, same]
  rcases h : exec x m with ⟨fault | a, m'⟩
  · rw [h] at sound
    exact hf fault m' sound
  · rw [h] at sound found
    exact ⟨sound, found, rfl⟩

theorem BlindTo.lift (op : Op α) : Blind v w (monadLift op) :=
  fun _ hm => ⟨hm, fun _ _ => trivial, rfl⟩

theorem blind_newFrame : Blind v w newFrame := by
  intro m hm
  have made (m : Machine) : exec newFrame m =
      (.ok m.frames.size, { m with frames := m.frames.push .empty }) := rfl
  refine ⟨hm.newFrame, fun _ _ => trivial, ?_⟩
  rw [made, made, Machine.size_relabel]
  simp [Machine.relabel, Frame.relabel, Frame.empty]

theorem blind_bind {name : String} (hn : name ≠ labelsName) (frame : Nat) (value : Datum) :
    Blind v w (Eval.bind frame name value) := by
  intro m hm
  refine ⟨hm.modify frame fun f hf => hf.bind hn, fun _ _ => trivial, ?_⟩
  have relabelled := Machine.relabel_modify (w := w) _ m frame (Frame.relabel_bind hn value)
  exact congrArg (fun frames => (Except.ok (), Machine.mk m.store frames m.kept m.touched))
    relabelled.symm

theorem exec_find? (scope : List Nat) (name : String) (m : Machine) :
    exec (find? scope name) m = (.ok (m.known scope name), m) := rfl

theorem blind_nameValue {name : String} (hn : name ≠ labelsName) (scope : Scope) :
    Blind v w (nameValue scope name) := by
  refine Blind.bind (fun m hm => ⟨hm, fun _ _ => trivial, ?_⟩) fun found => .pure trivial
  rw [exec_find?, exec_find?, m.known_relabel w scope hn]

/-- What is done with the labels, if it is the same for both, does not see their order. -/
theorem BlindTo.labels {k : Datum → Eval α} (scope : Scope) (same : k v = k w)
    (hk : ∀ d, BlindTo v w P (k d)) : BlindTo v w P (Template.nameValue scope labelsName >>= k) := by
  intro m hm
  have known (m : Machine) : exec (Template.nameValue scope labelsName >>= k) m =
      exec (k ((m.known scope labelsName).getD (.missing (.name labelsName)))) m := rfl
  rw [known, known]
  -- Either no frame knows the labels, or each machine finds its own.
  rcases hm.known_labels w scope with ⟨hv, hw⟩ | ⟨hv, hw⟩
  · rw [hv, hw]
    exact hk _ m hm
  · rw [hv, hw, Option.getD_some, Option.getD_some, ← same]
    exact hk v m hm

theorem blind_newMacro {called : Macro} (h : called.looksUp) (frame : Nat) (name : String) :
    Blind v w (newMacro frame name called) := by
  intro m hm
  have made (m : Machine) : exec (newMacro frame name called) m =
      (.ok (Datum.macroValue name frame ((m.frames[frame]?).elim 0 fun f => f.macros.length)),
        { m with frames := m.frames.modify frame (Frame.keep called) }) := rfl
  have place : ((m.relabel w).frames[frame]?).elim 0 (fun f => f.macros.length) =
      (m.frames[frame]?).elim 0 fun f => f.macros.length := by
    rw [Machine.getElem?_relabel]
    cases m.frames[frame]? <;> rfl
  have relabelled := Machine.relabel_modify (w := w) (Frame.keep called) m frame fun _ => rfl
  rw [made, made, place]
  refine ⟨hm.modify frame fun f hf => hf.keep h, fun _ _ => trivial, ?_⟩
  -- A macro holds no values, so it is kept as it is.
  exact congrArg (fun frames => (_, Machine.mk m.store frames m.kept m.touched)) relabelled.symm

theorem blindTo_macro? (frame index : Nat) :
    BlindTo v w (fun found => ∀ called ∈ found, called.looksUp) (macro? frame index) := by
  intro m hm
  have asked (m : Machine) : exec (Eval.macro? frame index) m =
      (.ok ((m.frames[frame]?).bind fun f => f.macros[index]?), m) := rfl
  rw [asked, asked, Machine.getElem?_relabel]
  refine ⟨hm, fun found hf called hc => ?_, ?_⟩
  · cases hf
    obtain ⟨f, hi, hc⟩ := Option.bind_eq_some_iff.1 hc
    exact (hm frame f hi).macros called (List.mem_of_getElem? hc)
  · cases m.frames[frame]? <;> rfl

/-! Lists of computations -/

theorem BlindTo.mapM {γ : Type} {xs : List γ} {f : γ → Eval α}
    (h : ∀ x ∈ xs, BlindTo v w P (f x)) : BlindTo v w (fun ys => ∀ y ∈ ys, P y) (xs.mapM f) := by
  induction xs with
  | nil =>
    rw [List.mapM_nil]
    exact .pure (by simp)
  | cons x rest ih =>
    obtain ⟨here, others⟩ := List.forall_mem_cons.1 h
    rw [List.mapM_cons]
    exact here.bind fun y hy => (ih others).bind fun ys hys =>
      .pure (List.forall_mem_cons.2 ⟨hy, hys⟩)

theorem Blind.mapM {γ : Type} {xs : List γ} {f : γ → Eval α} (h : ∀ x ∈ xs, Blind v w (f x)) :
    Blind v w (xs.mapM f) := (BlindTo.mapM h).blind

theorem BlindTo.foldlM {γ : Type} {xs : List γ} {f : α → γ → Eval α} {a : α} (ha : P a)
    (h : ∀ a, P a → ∀ x ∈ xs, BlindTo v w P (f a x)) : BlindTo v w P (xs.foldlM f a) := by
  induction xs generalizing a with
  | nil => exact .pure ha
  | cons x rest ih =>
    rw [List.foldlM_cons]
    exact (h a ha x List.mem_cons_self).bind fun b hb =>
      ih hb fun b hb y hy => h b hb y (List.mem_cons_of_mem _ hy)

theorem BlindTo.filterMapM {γ : Type} {xs : List γ} {f : γ → Eval (Option α)}
    (h : ∀ x ∈ xs, BlindTo v w (fun y => ∀ a ∈ y, P a) (f x)) :
    BlindTo v w (fun ys => ∀ y ∈ ys, P y) (xs.filterMapM f) := by
  induction xs with
  | nil =>
    rw [List.filterMapM_nil]
    exact .pure (by simp)
  | cons x rest ih =>
    obtain ⟨here, others⟩ := List.forall_mem_cons.1 h
    rw [List.filterMapM_cons]
    refine here.bind fun y hy => ?_
    cases y with
    | none => exact ih others
    | some a =>
      exact (ih others).bind fun ys hys => .pure (List.forall_mem_cons.2 ⟨hy a rfl, hys⟩)

theorem Blind.forIn {γ : Type} {xs : List γ} {f : γ → PUnit → Eval (ForInStep PUnit)}
    (h : ∀ x ∈ xs, Blind v w (f x ⟨⟩)) : Blind v w (forIn xs ⟨⟩ f) := by
  induction xs with
  | nil => exact .pure trivial
  | cons x rest ih =>
    obtain ⟨here, others⟩ := List.forall_mem_cons.1 h
    rw [List.forIn_cons]
    exact here.bind fun step => match step with
      | .done _ => .pure trivial
      | .yield _ => ih others

theorem Blind.collect {f : Datum → Eval (List Datum)} (hf : ∀ d, Blind v w (f d))
    (items : List Datum) : Blind v w (collect f items) := by
  induction items with
  | nil => exact .pure trivial
  | cons d rest ih =>
    refine Blind.bind ?_ fun found => ?_
    · exact BlindTo.tryCatch ((hf d).bind fun _ => .pure trivial) fun _ => .pure trivial
    · cases found with
      | error fault => exact .pure trivial
      | ok here => exact ih.bind fun _ => .pure trivial

end Eval
end Template
end MetricPaths
