import MetricPaths.Proofs.Metric
import MetricPaths.Proofs.Template.Evaluation
import MetricPaths.Libraries.Own

/-! Metrics that hold the same labels, in whatever order, give the same text wherever a template
looks labels up by name. -/
namespace MetricPaths
namespace Template

def labelEntries (labels : List (String × String)) : List (Datum × Datum) :=
  labels.map fun (name, value) => (.plain name, .plain value)

theorem labelsView_eq (m : Metric) : labelsView m = .view (labelEntries m.labels) := rfl

theorem field?_labelEntries (labels : List (String × String)) (name : String) :
    Datum.field? name (labelEntries labels) = (labels.lookup name).map Datum.plain := by
  induction labels with
  | nil => rfl
  | cons e rest ih =>
    obtain ⟨key, value⟩ := e
    have step : Datum.field? name (labelEntries ((key, value) :: rest)) =
        if key = name then some (.plain value) else Datum.field? name (labelEntries rest) := rfl
    rw [step, ih, List.lookup_cons]
    by_cases h : key = name
    · simp [h]
    · simp [h, beq_false_of_ne (Ne.symm h)]

def Datum.keyText? : Datum → Option String
  | .str s _ => some s
  | _ => Option.none

theorem equal_plain (store : Store) (s : String) {d : Datum} (h : d.isKey) :
    Datum.equal store (.plain s) d = .ok (d.keyText? = some s) := by
  cases d with
  | str t safe =>
    have texts : Datum.equal store (.plain s) (.str t safe) = .ok (s = t) := rfl
    simp [texts, Datum.keyText?, eq_comm]
  | missing | list | dict | view | set => exact absurd h (by simp [Datum.isKey])
  | _ => rfl

theorem lookup_labelEntries (store : Store) {d : Datum} (h : d.isKey)
    (labels : List (String × String)) : Datum.lookup store d (labelEntries labels) =
      .ok (d.keyText?.bind fun name => (labels.lookup name).map Datum.plain) := by
  induction labels with
  | nil => cases hd : d.keyText? <;> rfl
  | cons e rest ih =>
    obtain ⟨key, value⟩ := e
    have step : Datum.lookup store d (labelEntries ((key, value) :: rest)) =
        (Datum.equal store (.plain key) d >>= fun same =>
          if same then pure (some (.plain value)) else Datum.lookup store d (labelEntries rest)) := rfl
    rw [step, equal_plain store key h, ih]
    cases hd : d.keyText? with
    | none => rfl
    | some name =>
      by_cases hn : name = key
      · simp [hn, bind, Except.bind, pure, Except.pure]
      · simp [hn, bind, Except.bind, List.lookup_cons, beq_false_of_ne hn]

variable {m m' : Metric}

theorem lookup_labelEntries_congr (same : m.SameLabels m') (store : Store) {d : Datum}
    (h : d.isKey) : Datum.lookup store d (labelEntries m.labels) =
      Datum.lookup store d (labelEntries m'.labels) := by
  rw [lookup_labelEntries store h, lookup_labelEntries store h]
  exact congrArg (fun found => Except.ok (d.keyText?.bind fun name => (found name).map Datum.plain))
    (funext same.get?)

def methodsOf (d : Datum) : List String :=
  (Attributes.own d).filter fun name => !Attributes.isGuarded name

theorem inherent?_mapping {d : Datum} {es : List (Datum × Datum)} (h : d.entries? = some es)
    (name : String) : Access.inherent? d name =
      if name ∈ methodsOf d then some (.method d name)
      else if Attributes.has d name then some (.missing (.guarded d.typeName name)) else none := by
  have common : ∀ other ∈ Attributes.common, Attributes.isGuarded other := by decide
  have noValue : Access.valueOf? d name = none := by
    cases d with
    | dict | view => rfl
    | _ => cases h
  rw [Access.inherent?, noValue]
  by_cases guarded : Attributes.isGuarded name = true
  · simp [methodsOf, guarded]
  · have other : name ∉ Attributes.common := fun hn => guarded (common name hn)
    by_cases own : name ∈ Attributes.own d <;> simp [methodsOf, Attributes.has, guarded, other, own]

theorem inherent?_view (es : List (Datum × Datum)) {name : String} (h : name ∉ methodNames) :
    Access.inherent? (.view es) name =
      if Attributes.has (.view []) name then some (.missing (.guarded "mappingproxy" name))
      else none := by
  have inherent := @inherent?_mapping (.view es) es rfl name
  rwa [if_neg (show name ∉ methodsOf (.view es) from h)] at inherent

theorem item_mapping {d : Datum} {es : List (Datum × Datum)} (h : d.entries? = some es)
    {key : Datum} (hk : key.isKey) : Access.item d key = (do
      match ← Op.lift (Datum.lookup (← Op.store) key es) with
      | some found => return found
      | none => Access.otherwise d key) := by
  cases d with
  | dict | view =>
    cases h
    cases key with
    | missing | list | dict | view | set => exact absurd hk (by simp [Datum.isKey])
    | _ => rfl
  | _ => cases h

theorem item_view (es : List (Datum × Datum)) {d : Datum} (h : d.isKey) :
    Access.item (.view es) d = (do
      match ← Op.lift (Datum.lookup (← Op.store) d es) with
      | some found => return found
      | none => Access.otherwise (.view es) d) :=
  item_mapping rfl h

theorem contains_view (es : List (Datum × Datum)) {d : Datum} (h : d.isKey) :
    Arithmetic.contains d (.view es) = (do
      return (← Op.lift (Datum.lookup (← Op.store) d es)).isSome) := by
  cases d with
  | missing | list | dict | view | set => exact absurd h (by simp [Datum.isKey])
  | _ => rfl

theorem alike_labelsView (same : m.SameLabels m') : Alike (labelsView m) (labelsView m') where
  member name := by
    have found : m.labels.lookup name = m'.labels.lookup name := same.get? name
    simp only [labelsView_eq, Access.member, field?_labelEntries, found]
    rfl
  item l hl := by
    have key : l.datum.isKey := by cases l <;> rfl
    have left : Access.otherwise (labelsView m) l.datum = Access.otherwise (labelsView m') l.datum := by
      cases l with
      | str s =>
        have other : s ∉ methodNames := by simpa [Expr.isPlainKey] using hl
        simp only [Literal.datum, Datum.plain, labelsView_eq, Access.otherwise, inherent?_view _ other]
        rfl
      | _ => rfl
    rw [labelsView_eq, labelsView_eq] at left ⊢
    rw [item_view _ key, item_view _ key, left]
    exact bind_congr fun store => by rw [lookup_labelEntries_congr same store key]
  contains d := by
    rw [labelsView_eq, labelsView_eq]
    by_cases key : d.isKey
    · rw [contains_view _ key, contains_view _ key]
      exact bind_congr fun store => by rw [lookup_labelEntries_congr same store key]
    · cases d with
      | missing | list | dict | view | set => rfl
      | _ => exact absurd rfl key
  length := by
    have count : m.labels.length = m'.labels.length := (Metric.sameLabels_iff_perm.1 same).length_eq
    simp [labelsView_eq, Op.length, labelEntries, count]

def start (m : Metric) (shared : Shared) : Machine :=
  ⟨shared.store, #[context m shared.root], shared.store.size, false⟩

theorem sound_start (m : Metric) (shared : Shared) : (start m shared).Sound (labelsView m) := by
  intro i f hf
  have first : (start m shared).frames = #[context m shared.root] := rfl
  rw [first, Array.getElem?_singleton] at hf
  split_ifs at hf
  cases hf
  exact ⟨by simp [context, globals, labelsName], by simp [context]⟩

theorem relabel_start (m m' : Metric) (shared : Shared) :
    (start m shared).relabel (labelsView m') = start m' shared := by
  simp [start, Machine.relabel, Frame.relabel, Frame.relabelEntry, context, globals, labelsName]

/-- A template that looks labels up by name writes the same, or stops in the same way, and
leaves the same, whatever order the labels are in. -/
theorem render_congr (same : m.SameLabels m') {template : Template}
    (looksUp : nodesLookUp template.body) (shared : Shared) :
    template.render m shared = template.render m' shared := by
  have blind := (blindAt (alike_labelsView same) bound).runAll [0] template.body looksUp
  obtain ⟨-, -, other⟩ := blind (start m shared) (sound_start m shared)
  rw [relabel_start] at other
  have rendered (m : Metric) : template.render m shared =
      ((Eval.exec (runAll bound [0] template.body) (start m shared)).1,
        shared.left (Eval.exec (runAll bound [0] template.body) (start m shared)).2) := rfl
  rw [rendered, rendered, other]
  rfl

/-- Whether a template, as it is written, looks labels up by name. One that cannot be read asks
for nothing. A method or a cursor is written as a fixed text here, so nothing is said of those who
write where it is stored. -/
def looksUp (source : String) : Bool :=
  match compile source with
  | .error _ => true
  | .ok template => nodesLookUp template.body

theorem renderText_congr (same : m.SameLabels m') {source : String} (h : looksUp source)
    (shared : Shared) : renderText source m shared = renderText source m' shared := by
  unfold looksUp at h
  unfold renderText
  cases hc : Libraries.compileTemplate source with
  | error _ => rfl
  | ok template =>
    rw [mapError_eq_ok_iff.1 hc] at h
    have rendered : Libraries.render template m shared = Libraries.render template m' shared :=
      render_congr same h shared
    simp only [rendered]

end Template
end MetricPaths
