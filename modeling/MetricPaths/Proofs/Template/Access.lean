import MetricPaths.Proofs.Template.Escaped
import MetricPaths.Proofs.Template.Loaded

/-! Access to mappings by key. A dot and a name ask a mapping for the value under that key and for
nothing else. A subscript that is a text asks for the same value; where there is none it goes on
to the attributes of the mapping, and a template writes the method that it finds. -/
namespace MetricPaths
namespace Template
open Eval

def KeysThere (es : List (Datum × Datum)) : Prop := ∀ e ∈ es, e.1.missing? = none

theorem keysThere_labelEntries (labels : List (String × String)) :
    KeysThere (labelEntries labels) := by
  intro e he
  obtain ⟨label, -, rfl⟩ := List.mem_map.1 he
  rfl

namespace Datum

theorem equal_of_plain (store : Store) {k : Datum} (h : k.missing? = Option.none) (name : String) :
    equal store k (.plain name) = .ok (k.keyText? = some name) := by
  cases k with
  | str s safe =>
    have texts : equal store (.str s safe) (.plain name) = .ok (s = name) := rfl
    simp [texts, keyText?]
  | missing => cases h
  | _ => rfl

theorem lookup_plain (store : Store) {es : List (Datum × Datum)} (h : KeysThere es)
    (name : String) : lookup store (.plain name) es = .ok (field? name es) := by
  induction es with
  | nil => rfl
  | cons e rest ih =>
    obtain ⟨here, others⟩ := List.forall_mem_cons.1 h
    rw [field?_cons, lookup, equal_of_plain store here, ih others]
    by_cases same : e.1.keyText? = some name
    · rw [if_pos same, decide_eq_true same]
      rfl
    · rw [if_neg same, decide_eq_false same]
      rfl

end Datum

namespace Access

variable {d : Datum} {es : List (Datum × Datum)}

theorem outcome_member (h : d.entries? = some es) (name : String) (heap : Heap) :
    (member d name).outcome heap =
      .ok ((Datum.field? name es).getD (missingAttribute d name)) := by
  cases d with
  | dict | view =>
    cases h
    rfl
  | _ => cases h

/-- A subscript finds the same, and beyond it the attributes that the mapping has as such. -/
theorem outcome_item (h : d.entries? = some es) (keys : KeysThere es) (name : String)
    (heap : Heap) : (item d (.plain name)).outcome heap =
      .ok (((Datum.field? name es).or (inherent? d name)).getD (missingAttribute d name)) := by
  rw [item_mapping h rfl, Op.outcome_bind Op.reads_store]
  change ((Op.lift (Datum.lookup heap.store (.plain name) es)) >>= _).outcome heap = _
  rw [Datum.lookup_plain heap.store keys]
  cases Datum.field? name es with
  | some v => rfl
  | none =>
    cases d with
    | dict | view => rfl
    | _ => cases h

end Access

/-- What two outputs give that ask a mapping for the key of a name, one by a dot and the other by
a subscript. Both write the value, if there is one. If there is none the dot fails, and so does
the subscript, unless the mapping has a method of that name. -/
structure Answers (value : Option (Outcome String)) (methods : List String) (name : String)
    (dot subscript : Outcome String) : Prop where
  present : ∀ written, value = some written → dot = written ∧ subscript = written
  absent : value = none → ∃ text, dot = .error (.told text)
  method : value = none → name ∈ methods → ∃ written, subscript = .ok written
  other : value = none → name ∉ methods → ∃ text, subscript = .error (.told text)

variable {d : Datum} {es : List (Datum × Datum)}

theorem text_missing (store : Store) {how : Missing} (h : how ≠ .noAlternative) :
    (Datum.missing how).text store = .error how.fault := by
  cases how with
  | noAlternative => exact absurd rfl h
  | _ => rfl

theorem text_missingAttribute (store : Store) (d : Datum) (name : String) :
    ∃ text, (Access.missingAttribute d name).text store = .error (.told text) :=
  ⟨_, text_missing store (by simp)⟩

theorem answers_of_entries (store : Store) (h : d.entries? = some es) (name : String) :
    Answers ((Datum.field? name es).map (·.text store)) (methodsOf d) name
      (((Datum.field? name es).getD (Access.missingAttribute d name)).text store)
      ((((Datum.field? name es).or (Access.inherent? d name)).getD
        (Access.missingAttribute d name)).text store) := by
  rw [inherent?_mapping h]
  cases Datum.field? name es with
  | some v => exact ⟨by simp, by simp, by simp, by simp⟩
  | none =>
    refine ⟨by simp, fun _ => text_missingAttribute store d name, fun _ hm => ?_, fun _ hm => ?_⟩
    · rw [if_pos hm]
      exact ⟨_, rfl⟩
    · rw [if_neg hm]
      split_ifs
      · exact ⟨_, text_missing store (by simp)⟩
      · exact text_missingAttribute store d name

section
variable {m m' : Machine} {scope : Scope} {e : Expr} {n : Nat}

theorem exec_bind_ok {α β : Type} {x : Eval α} {a : α} (h : exec x m = (.ok a, m'))
    (f : α → Eval β) : exec (x >>= f) m = exec (f a) m' := by
  rw [exec_bind, h]

theorem evaluate_member (n : Nat) (scope : Scope) (e : Expr) (name : String) :
    evaluate (n + 1) scope (.member e name) =
      evaluate n scope e >>= fun d => monadLift (Access.member d name) := by
  rw [evaluate]

theorem evaluate_item_text (n : Nat) (scope : Scope) (e : Expr) (name : String) :
    evaluate (n + 2) scope (.item e (.literal (.str name))) =
      evaluate (n + 1) scope e >>= fun d => monadLift (Access.item d (.plain name)) := by
  rw [evaluate]
  refine bind_congr fun d => ?_
  rw [evaluate]
  rfl

theorem exec_output {other : Expr} {read : Datum → Op Datum} {found : Datum}
    (unfolds : evaluate (n + 2) scope other =
      evaluate (n + 1) scope e >>= fun d => monadLift (read d))
    (he : exec (evaluate (n + 1) scope e) m = (.ok d, m')) (reads : (read d).Reads)
    (finds : (read d).outcome m'.heap = .ok found) :
    exec (run (n + 3) scope (.output other)) m = (found.text m'.store, m') := by
  have gives : Gives m' (monadLift (read d)) (.ok found) := finds ▸ Gives.lift reads
  have value : exec (evaluate (n + 2) scope other) m = (.ok found, m') := by
    rw [unfolds, exec_bind_ok he]
    exact gives
  have text : Gives m' (monadLift (Op.text found)) ((Op.text found).outcome m'.heap) :=
    .lift (Op.reads_text found)
  rw [run, exec_bind_ok value, text, Op.outcome_text]
  rfl

/-- Wherever an expression leads to a mapping, in whatever state, its keys are what a template
asks it for by a dot and by a subscript. -/
theorem exec_outputs (he : exec (evaluate (n + 1) scope e) m = (.ok d, m'))
    (hd : d.entries? = some es) (keys : KeysThere es) (name : String) : ∃ dot subscript,
      exec (run (n + 3) scope (.output (.member e name))) m = (dot, m') ∧
      exec (run (n + 3) scope (.output (.item e (.literal (.str name))))) m = (subscript, m') ∧
      Answers ((Datum.field? name es).map (·.text m'.store)) (methodsOf d) name dot subscript :=
  ⟨_, _, exec_output (evaluate_member _ _ _ _) he (Access.reads_member d name)
      (Access.outcome_member hd name m'.heap),
    exec_output (evaluate_item_text _ _ _ _) he (Access.reads_item d (.plain name))
      (Access.outcome_item hd keys name m'.heap),
    answers_of_entries m'.store hd name⟩

end

def Outputs (source : String) (e : Expr) : Prop :=
  ∃ template, compile source = .ok template ∧ template.body = [.output e]

section
variable {metric : Metric} {shared : Shared} {source : String} {e : Expr}

theorem renderText_of_outputs (hs : Outputs source e) {r : Outcome String}
    (h : Gives (start metric shared) (run (bound - 1) [0] (.output e)) r) :
    renderText source metric shared = (r.mapError (RenderFault.problem source), shared) := by
  obtain ⟨template, hc, hb⟩ := hs
  have all : Gives (start metric shared) (runAll bound [0] [.output e]) r := by
    have joined : r = [Node.output e].mapM (fun _ => r) >>= fun parts => .ok (String.join parts) := by
      cases r <;> simp [String.join] <;> rfl
    rw [joined]
    change Gives _ (runAll (bound - 1 + 1) _ _) _
    rw [runAll]
    refine Gives.bind (.mapM fun node hn => ?_) fun parts _ => .pure _
    rwa [List.mem_singleton.1 hn]
  rw [← hb] at all
  rw [renderText_of_compile hc, render_of_gives all]

/-- What an expression comes to when a template begins. -/
def Leads (metric : Metric) (shared : Shared) (e : Expr) (d : Datum) : Prop :=
  Gives (start metric shared) (evaluate (bound - 3) [0] e) (.ok d)

theorem leads_of_way {way : Way} (h : way.value metric shared = .ok d)
    (shallow : way.depth ≤ bound - 3) : Leads metric shared way.expr d := by
  have gives : Gives (start metric shared) (evaluate (bound - 3) [0] way.expr) _ :=
    way.gives (bound - 3)
  rwa [within, if_pos shallow, h] at gives

theorem renderText_outputs (he : Leads metric shared e d) (hd : d.entries? = some es)
    (keys : KeysThere es) {name byDot bySubscript : String}
    (hdot : Outputs byDot (.member e name))
    (hsub : Outputs bySubscript (.item e (.literal (.str name)))) : ∃ dot subscript,
      renderText byDot metric shared = (dot.mapError (RenderFault.problem byDot), shared) ∧
      renderText bySubscript metric shared =
        (subscript.mapError (RenderFault.problem bySubscript), shared) ∧
      Answers ((Datum.field? name es).map (·.text shared.store)) (methodsOf d) name dot subscript := by
  obtain ⟨dot, subscript, member, item, answers⟩ := exec_outputs he hd keys name
  exact ⟨dot, subscript, renderText_of_outputs hdot member, renderText_of_outputs hsub item, answers⟩

end

theorem exists_of_reaches_root {document : Value}
    (reached : (Shared.ofValue document).root.Reaches (Shared.ofValue document).store d)
    (hd : d.entries? = some es) : ∃ mapping entries, document.Reaches mapping ∧
      (Shared.ofValue document).store.Holds mapping d ∧ mapping.entries? = some entries ∧
      List.Forall₂ (Store.HoldsEntry (Shared.ofValue document).store) entries es := by
  have loaded : Store.Holds (Shared.ofValue document).store document (Shared.ofValue document).root :=
    ⟨#[], rfl, List.prefix_rfl⟩
  obtain ⟨mapping, inside, held⟩ := loaded.exists_of_reaches reached
  obtain ⟨entries, hm, each⟩ := held.entries? hd
  exact ⟨mapping, entries, inside, held, hm, each⟩

theorem keysThere_of_held {store : Store} {entries : List (Value × Value)}
    (each : List.Forall₂ store.HoldsEntry entries es) : KeysThere es := by
  intro f hf
  have inside : f.1 ∈ es.flatMap fun f => [f.1, f.2] :=
    List.mem_flatMap.2 ⟨f, hf, List.mem_cons_self⟩
  obtain ⟨u, -, held⟩ := exists_of_mem_forall₂ (Store.held_parts_of_entries each) inside
  exact held.missing?

def WrittenIn (store : Store) (v : Value) (written : Outcome String) : Prop :=
  ∃ d, store.Holds v d ∧ written = d.text store

theorem written_field? {store : Store} {entries : List (Value × Value)}
    (each : List.Forall₂ store.HoldsEntry entries es) (name : String) :
    Option.Rel (WrittenIn store) (Value.field? name entries)
      ((Datum.field? name es).map (·.text store)) := by
  have found := Store.rel_field? each name
  generalize Value.field? name entries = there, Datum.field? name es = here at found ⊢
  cases found with
  | none => exact .none
  | some held => exact .some ⟨_, held, rfl⟩

/-- Wherever a template asks a mapping for a key, by a dot or by a subscript, it writes the value
under that key, if there is one. If there is none the dot fails, and the subscript fails unless
the mapping has a method of that name. So it is with the labels of every metric, and with every
mapping that stands, at any depth, in the shared data of a document. -/
theorem keys_by_dot_and_subscript (metric : Metric) (name : String) :
    (∀ (m m' : Machine) (scope : Scope) (n : Nat) (e : Expr) (d : Datum)
      (es : List (Datum × Datum)),
      exec (evaluate (n + 1) scope e) m = (.ok d, m') → d.entries? = some es → KeysThere es →
      ∃ dot subscript,
        exec (run (n + 3) scope (.output (.member e name))) m = (dot, m') ∧
        exec (run (n + 3) scope (.output (.item e (.literal (.str name))))) m = (subscript, m') ∧
        Answers ((Datum.field? name es).map (·.text m'.store)) (methodsOf d) name dot subscript) ∧
    (∀ (shared : Shared) (byDot bySubscript : String),
      Outputs byDot (.member (.name "labels") name) →
      Outputs bySubscript (.item (.name "labels") (.literal (.str name))) →
      ∃ dot subscript,
        renderText byDot metric shared = (dot.mapError (RenderFault.problem byDot), shared) ∧
        renderText bySubscript metric shared =
          (subscript.mapError (RenderFault.problem bySubscript), shared) ∧
        Answers ((metric.get? name).map .ok) ["copy", "get", "items", "keys", "values"] name
          dot subscript) ∧
    ∀ (document : Value) (shared : Shared) (d : Datum) (es : List (Datum × Datum)) (e : Expr)
      (byDot bySubscript : String),
      shared = .ofValue document → shared.root.Reaches shared.store d → d.entries? = some es →
      Leads metric shared e d → Outputs byDot (.member e name) →
      Outputs bySubscript (.item e (.literal (.str name))) →
      ∃ mapping entries dot subscript,
        document.Reaches mapping ∧ shared.store.Holds mapping d ∧
        mapping.entries? = some entries ∧
        Option.Rel (WrittenIn shared.store) (Value.field? name entries)
          ((Datum.field? name es).map (·.text shared.store)) ∧
        renderText byDot metric shared = (dot.mapError (RenderFault.problem byDot), shared) ∧
        renderText bySubscript metric shared =
          (subscript.mapError (RenderFault.problem bySubscript), shared) ∧
        Answers ((Datum.field? name es).map (·.text shared.store)) (methodsOf d) name dot
          subscript := by
  refine ⟨fun _ _ _ _ _ _ _ he hd keys => exec_outputs he hd keys name, ?_, ?_⟩
  · intro shared byDot bySubscript hdot hsub
    have labels : Leads metric shared (.name "labels") (labelsView metric) :=
      @leads_of_way _ metric shared .labels rfl (by decide)
    have entries : (labelsView metric).entries? = some (labelEntries metric.labels) := rfl
    obtain ⟨dot, subscript, member, item, answers⟩ :=
      renderText_outputs labels entries (keysThere_labelEntries metric.labels) hdot hsub
    rw [field?_labelEntries, Option.map_map] at answers
    exact ⟨dot, subscript, member, item, answers⟩
  · rintro document shared d es e byDot bySubscript rfl reached hd leads hdot hsub
    obtain ⟨mapping, entries, inside, held, hm, each⟩ := exists_of_reaches_root reached hd
    obtain ⟨dot, subscript, member, item, answers⟩ :=
      renderText_outputs leads hd (keysThere_of_held each) hdot hsub
    exact ⟨mapping, entries, dot, subscript, inside, held, hm, written_field? each name, member,
      item, answers⟩

def soleWay? (source : String) : Option Way :=
  (compile source).toOption.bind fun template =>
    match template.body with
    | [.output e] => Way.ofExpr? e
    | _ => none

theorem outputs_of_soleWay? {source : String} {way : Way} (h : soleWay? source = some way) :
    Outputs source way.expr := by
  unfold soleWay? at h
  cases hc : compile source with
  | error fault => simp [hc, Except.toOption] at h
  | ok template =>
    rw [hc, Except.toOption, Option.bind_some] at h
    split at h
    · next e hb => exact ⟨template, hc, Way.ofExpr?_eq_some_iff.1 h ▸ hb⟩
    · cases h

def itemsByDot : String := "\x7b\x7b labels.items \x7d\x7d"

def itemsBySubscript : String := "\x7b\x7b labels['items'] \x7d\x7d"

theorem outputs_items : Outputs itemsByDot (.member (.name "labels") "items") ∧
    Outputs itemsBySubscript (.item (.name "labels") (.literal (.str "items"))) :=
  ⟨@outputs_of_soleWay? _ (.dot .labels "items") (by decide +kernel),
    @outputs_of_soleWay? _ (.item .labels "items") (by decide +kernel)⟩

def keysByDot : String := "\x7b\x7b shared.zone.keys \x7d\x7d"

def keysBySubscript : String := "\x7b\x7b shared.zone['keys'] \x7d\x7d"

theorem outputs_keys : Outputs keysByDot (.member (Way.dot .shared "zone").expr "keys") ∧
    Outputs keysBySubscript (.item (Way.dot .shared "zone").expr (.literal (.str "keys"))) :=
  ⟨@outputs_of_soleWay? _ (.dot (.dot .shared "zone") "keys") (by decide +kernel),
    @outputs_of_soleWay? _ (.item (.dot .shared "zone") "keys") (by decide +kernel)⟩

def keyedZone : Value := .map [(.str "keys", .str "eu")]

/-- A label that has the name of a method, a key of that kind in the shared data, and a label
that is not there. -/
theorem keys_by_dot_and_subscript_sample :
    let metric : Metric := .ofList [(nameLabel, "up"), ("items", "x")]
    let shared : Shared := .ofValue (.map [(.str "zone", keyedZone)])
    renderText itemsByDot metric shared = (.ok "x", shared) ∧
    renderText itemsBySubscript metric shared = (.ok "x", shared) ∧
    renderText keysByDot metric shared = (.ok "eu", shared) ∧
    renderText keysBySubscript metric shared = (.ok "eu", shared) ∧
    ∃ dot subscript,
      exec (run 3 [0] (.output (.member (.name "labels") "job"))) (start metric shared) =
        (.error dot, start metric shared) ∧
      exec (run 3 [0] (.output (.item (.name "labels") (.literal (.str "job")))))
        (start metric shared) = (.error subscript, start metric shared) := by
  intro metric shared
  obtain ⟨-, labels, -⟩ := keys_by_dot_and_subscript metric "items"
  obtain ⟨dot, subscript, member, item, answers⟩ :=
    labels shared _ _ outputs_items.1 outputs_items.2
  obtain ⟨rfl, rfl⟩ := answers.present (.ok "x") rfl
  have leads : Leads metric shared (Way.dot .shared "zone").expr
      (.dict [(.plain "keys", .plain "eu")]) := leads_of_way rfl (by decide)
  have reached : shared.root.Reaches shared.store (.dict [(.plain "keys", .plain "eu")]) :=
    .within (List.mem_cons_of_mem _ List.mem_cons_self) (.here _)
  obtain ⟨-, -, nested⟩ := keys_by_dot_and_subscript metric "keys"
  obtain ⟨-, -, dot, subscript, -, -, -, -, memberOfZone, itemOfZone, answers⟩ :=
    nested _ shared _ _ _ _ _ rfl reached rfl leads outputs_keys.1 outputs_keys.2
  obtain ⟨rfl, rfl⟩ := answers.present (.ok "eu") rfl
  obtain ⟨anywhere, -⟩ := keys_by_dot_and_subscript metric "job"
  obtain ⟨dot, subscript, failed, failedToo, answers⟩ :=
    anywhere _ _ [0] 0 (.name "labels") (labelsView metric) (labelEntries metric.labels)
      (gives_name 0 rfl) rfl (keysThere_labelEntries metric.labels)
  obtain ⟨text, rfl⟩ := answers.absent rfl
  obtain ⟨text', rfl⟩ := answers.other rfl (by decide)
  exact ⟨member, item, memberOfZone, itemOfZone, .told text, .told text', failed, failedToo⟩

/-- A label that is not there: the dot fails, and the subscript writes a method. -/
theorem method_of_absentLabel : ∃ metric : Metric, metric.get? "items" = none ∧
    (renderText itemsByDot metric Shared.empty).1.isOk = false ∧
    ∃ path, (renderText itemsBySubscript metric Shared.empty).1 = .ok path :=
  ⟨.ofList [(nameLabel, "up")], by decide, by decide +kernel, exists_of_isOk (by decide +kernel)⟩

end Template
end MetricPaths
