import MetricPaths.Proofs.Template.Blind

/-! Evaluation does not see the order of labels, as long as labels are looked up by name. One
step of each evaluator is blind if the evaluators below it are, and so all of them are. -/
namespace MetricPaths
namespace Template
open Op Eval

/-- Two mappings that nobody can tell apart who looks labels up by name. -/
structure Alike (v w : Datum) : Prop where
  member : ∀ name, Access.member v name = Access.member w name
  item : ∀ l : Literal, (Expr.literal l).isPlainKey → Access.item v l.datum = Access.item w l.datum
  contains : ∀ d, Arithmetic.contains d v = Arithmetic.contains d w
  length : Op.length v = Op.length w

structure BlindAt (v w : Datum) (n : Nat) : Prop where
  evaluate : ∀ scope e, e.looksUp → Blind v w (evaluate n scope e)
  optional : ∀ scope e, optionLooksUp e → Blind v w (optional n scope e)
  passed : ∀ scope arguments, argumentsLookUp arguments → Blind v w (passed n scope arguments)
  call : ∀ f a, Blind v w (call n f a)
  throughFilters : ∀ scope filters d, chainLooksUp filters →
    Blind v w (throughFilters n scope filters d)
  runAll : ∀ scope nodes, nodesLookUp nodes → Blind v w (runAll n scope nodes)
  run : ∀ scope node, node.looksUp → Blind v w (run n scope node)

variable {v w : Datum} {n : Nat} {α : Type} {P : α → Prop}

theorem BlindAt.zero : BlindAt v w 0 where
  evaluate _ _ _ := by unfold Template.evaluate; exact .fail
  optional _ _ _ := by unfold Template.optional; exact .fail
  passed _ _ _ := by unfold Template.passed; exact .fail
  call _ _ := by unfold Template.call; exact .fail
  throughFilters _ _ _ _ := by unfold Template.throughFilters; exact .fail
  runAll _ _ _ := by unfold Template.runAll; exact .fail
  run _ _ _ := by unfold Template.run; exact .fail

theorem blindTo_evaluate_labels {k : Datum → Eval α} {e : Expr} (n : Nat) (scope : Scope)
    (he : e.isLabels) (same : k v = k w) (hk : ∀ d, BlindTo v w P (k d)) :
    BlindTo v w P (evaluate n scope e >>= k) := by
  cases e with
  | name name =>
    obtain rfl : name = labelsName := by simpa [Expr.isLabels] using he
    cases n with
    | zero =>
      unfold evaluate
      exact (BlindTo.fail : BlindTo v w (fun _ => False) _).bind fun _ h => h.elim
    | succ n =>
      simp only [evaluate]
      exact .labels scope same hk
  | _ => exact absurd he (by simp [Expr.isLabels])

theorem passed_nil (n : Nat) (scope : Scope) : passed (n + 1) scope [] = pure ⟨[], []⟩ := by
  simp [passed]

theorem Alike.filter_eq (alike : Alike v w) {name : String} (h : isCount name) :
    Filters.apply name v ⟨[], []⟩ = Filters.apply name w ⟨[], []⟩ := by
  have counts : name = "length" ∨ name = "count" := by simpa [isCount] using h
  rcases counts with rfl | rfl <;>
    simp [Filters.apply, Filters.applyAt, Filters.mapDepth, Filters.simple, alike.length]

theorem Alike.compare_eq (alike : Alike v w) {op : Comparison} (h : op = .isIn ∨ op = .notIn)
    (d : Datum) : Arithmetic.compare op d v = Arithmetic.compare op d w := by
  rcases h with rfl | rfl <;> simp [Arithmetic.compare, alike.contains]

theorem exists_of_asksForLabel {others : List (Comparison × Expr)} (h : asksForLabel others) :
    ∃ op e, others = [(op, e)] ∧ (op = .isIn ∨ op = .notIn) ∧ e.isLabels := by
  unfold asksForLabel at h
  split at h
  · exact ⟨_, _, rfl, .inl rfl, h⟩
  · exact ⟨_, _, rfl, .inr rfl, h⟩
  · cases h

theorem blind_evaluate (alike : Alike v w) (h : BlindAt v w n) (scope : Scope) (e : Expr)
    (looksUp : e.looksUp) : Blind v w (evaluate (n + 1) scope e) := by
  cases e with
  | literal l =>
    simp only [evaluate]
    exact .pure trivial
  | name name =>
    simp only [evaluate]
    exact blind_nameValue (by simpa [Expr.looksUp] using looksUp) scope
  | list items =>
    simp only [evaluate]
    have each := allLookUp_iff.1 looksUp
    exact (Blind.mapM fun e he => h.evaluate scope e (each e he)).bind fun _ => .lift _
  | tuple items =>
    simp only [evaluate]
    have each := allLookUp_iff.1 looksUp
    exact (Blind.mapM fun e he => h.evaluate scope e (each e he)).bind fun _ => .pure trivial
  | dict entries =>
    simp only [evaluate]
    have each := pairsLookUp_iff.1 looksUp
    refine Blind.bind (Blind.mapM fun e he => ?_) fun _ => Blind.bind (.lift _) fun _ => .pure trivial
    exact (h.evaluate scope e.1 (each e he).1).bind fun _ =>
      (h.evaluate scope e.2 (each e he).2).bind fun _ => .pure trivial
  | member e name =>
    simp only [evaluate]
    rw [Expr.looksUp, Bool.or_eq_true] at looksUp
    -- Of the labels themselves the member is the same; anything else does not depend on them.
    rcases looksUp with labels | looksUp
    · exact blindTo_evaluate_labels n scope labels (by rw [alike.member]) fun _ => .lift _
    · exact (h.evaluate scope e looksUp).bind fun _ => .lift _
  | item e index =>
    simp only [evaluate]
    rw [Expr.looksUp, Bool.or_eq_true, Bool.and_eq_true, Bool.and_eq_true] at looksUp
    rcases looksUp with ⟨labels, plain⟩ | ⟨looksUp, found⟩
    · cases index with
      | literal l =>
        refine blindTo_evaluate_labels n scope labels ?_ fun _ =>
          (h.evaluate scope (.literal l) rfl).bind fun _ => .lift _
        cases n with
        | zero => simp only [evaluate]; rfl
        | succ n => simp only [evaluate, pure_bind, alike.item l plain]
      | _ => exact absurd plain (by simp [Expr.isPlainKey])
    · exact (h.evaluate scope e looksUp).bind fun _ =>
        (h.evaluate scope index found).bind fun _ => .lift _
  | slice e start stop step =>
    simp only [evaluate]
    simp only [Expr.looksUp, Bool.and_eq_true] at looksUp
    obtain ⟨⟨⟨he, hstart⟩, hstop⟩, hstep⟩ := looksUp
    exact (h.evaluate scope e he).bind fun _ => (h.optional scope start hstart).bind fun _ =>
      (h.optional scope stop hstop).bind fun _ => (h.optional scope step hstep).bind fun _ => .lift _
  | call e arguments =>
    simp only [evaluate]
    rw [Expr.looksUp, Bool.and_eq_true] at looksUp
    exact (h.evaluate scope e looksUp.1).bind fun f =>
      (h.passed scope arguments looksUp.2).bind fun a => h.call f a
  | filter e name arguments =>
    simp only [evaluate]
    simp only [Expr.looksUp, Bool.or_eq_true, Bool.and_eq_true, List.isEmpty_iff] at looksUp
    rcases looksUp with ⟨⟨labels, counts⟩, rfl⟩ | ⟨looksUp, given⟩
    · refine blindTo_evaluate_labels n scope labels ?_ fun _ =>
        (h.passed scope [] rfl).bind fun _ => .lift _
      cases n with
      | zero => simp only [passed]; rfl
      | succ n => simp only [passed_nil, pure_bind, alike.filter_eq counts]
    · exact (h.evaluate scope e looksUp).bind fun _ =>
        (h.passed scope arguments given).bind fun _ => .lift _
  | test e name arguments =>
    simp only [evaluate]
    rw [Expr.looksUp, Bool.and_eq_true] at looksUp
    exact (h.evaluate scope e looksUp.1).bind fun _ =>
      (h.passed scope arguments looksUp.2).bind fun _ => Blind.bind (.lift _) fun _ => .pure trivial
  | unary op e =>
    simp only [evaluate]
    exact (h.evaluate scope e looksUp).bind fun _ => .lift _
  | binary op a b =>
    simp only [evaluate]
    rw [Expr.looksUp, Bool.and_eq_true] at looksUp
    exact (h.evaluate scope a looksUp.1).bind fun _ =>
      (h.evaluate scope b looksUp.2).bind fun _ => .lift _
  | both a b =>
    simp only [evaluate]
    rw [Expr.looksUp, Bool.and_eq_true] at looksUp
    refine (h.evaluate scope a looksUp.1).bind fun _ => Blind.bind (.lift _) fun truth => ?_
    split
    · exact h.evaluate scope b looksUp.2
    · exact .pure trivial
  | either a b =>
    simp only [evaluate]
    rw [Expr.looksUp, Bool.and_eq_true] at looksUp
    refine (h.evaluate scope a looksUp.1).bind fun _ => Blind.bind (.lift _) fun truth => ?_
    split
    · exact .pure trivial
    · exact h.evaluate scope b looksUp.2
  | join parts =>
    simp only [evaluate]
    have each := allLookUp_iff.1 looksUp
    exact (Blind.mapM fun e he => h.evaluate scope e (each e he)).bind fun _ =>
      (Blind.mapM fun _ _ => .lift _).bind fun _ => .pure trivial
  | compare e others =>
    simp only [evaluate]
    rw [Expr.looksUp, Bool.and_eq_true, Bool.or_eq_true] at looksUp
    obtain ⟨he, asks | looksUp⟩ := looksUp
    · obtain ⟨op, labels, rfl, inside, hl⟩ := exists_of_asksForLabel asks
      refine (h.evaluate scope e he).bind fun d => ?_
      simp only [List.foldlM_cons, List.foldlM_nil, if_true, bind_assoc, pure_bind]
      refine blindTo_evaluate_labels n scope hl (by rw [alike.compare_eq inside]) fun _ => ?_
      exact Blind.bind (.lift _) fun _ => .pure trivial
    · have each := comparisonsLookUp_iff.1 looksUp
      refine (h.evaluate scope e he).bind fun d => Blind.bind ?_ fun _ => .pure trivial
      refine BlindTo.foldlM trivial fun acc _ c hc => ?_
      split
      · exact (h.evaluate scope c.2 (each c hc)).bind fun _ =>
          Blind.bind (.lift _) fun _ => .pure trivial
      · exact .pure trivial
  | choice condition yes no =>
    simp only [evaluate]
    simp only [Expr.looksUp, Bool.and_eq_true] at looksUp
    obtain ⟨⟨hc, hy⟩, hn⟩ := looksUp
    refine (h.evaluate scope condition hc).bind fun _ => Blind.bind (.lift _) fun truth => ?_
    split
    · exact h.evaluate scope yes hy
    · cases no with
      | none => exact .pure trivial
      | some e => exact h.evaluate scope e hn

theorem blind_optional (h : BlindAt v w n) (scope : Scope) (e : Option Expr)
    (looksUp : optionLooksUp e) : Blind v w (optional (n + 1) scope e) := by
  cases e with
  | none =>
    simp only [optional]
    exact .pure trivial
  | some e =>
    simp only [optional]
    exact h.evaluate scope e looksUp

theorem blind_passed (h : BlindAt v w n) (scope : Scope) (arguments : List (Passing × Expr))
    (looksUp : argumentsLookUp arguments) : Blind v w (passed (n + 1) scope arguments) := by
  simp only [passed]
  have each := argumentsLookUp_iff.1 looksUp
  refine Blind.bind (Blind.mapM fun e he => ?_) fun positional =>
    Blind.bind (Blind.mapM fun e he => ?_) fun keywords => ?_
  · have value := h.evaluate scope e.2 (each e he)
    split
    · exact value.bind fun _ => .pure trivial
    · exact value.bind fun _ => Blind.bind (.lift _) fun _ => .lift _
    · exact .pure trivial
  · have value := h.evaluate scope e.2 (each e he)
    split
    · exact value.bind fun _ => .pure trivial
    · refine value.bind fun _ => Blind.bind (.lift _) fun d => ?_
      split
      · refine Blind.mapM fun entry _ => ?_
        split
        · exact .pure trivial
        · exact .fail
      · exact .fail
    · exact .pure trivial
  · split
    · exact .fail
    · exact .pure trivial

theorem blind_throughFilters (h : BlindAt v w n) (scope : Scope) (filters : FilterChain) (d : Datum)
    (looksUp : chainLooksUp filters) : Blind v w (throughFilters (n + 1) scope filters d) := by
  simp only [throughFilters]
  refine BlindTo.foldlM trivial fun d _ f hf => ?_
  exact (h.passed scope f.2 (List.all_eq_true.1 looksUp f hf)).bind fun _ => .lift _

theorem blind_runAll (h : BlindAt v w n) (scope : Scope) (nodes : List Node)
    (looksUp : nodesLookUp nodes) : Blind v w (runAll (n + 1) scope nodes) := by
  simp only [runAll]
  have each := nodesLookUp_iff.1 looksUp
  exact (Blind.mapM fun node hn => h.run scope node (each node hn)).bind fun _ => .pure trivial

theorem blind_bindHere {name : String} (hn : name ≠ labelsName) (scope : Scope) (d : Datum) :
    Blind v w (bindHere scope name d) := by
  cases scope with
  | nil => exact .fail
  | cons frame _ => exact blind_bind hn frame d

mutual

theorem blind_assign (scope : Scope) (d : Datum) (target : Target) (spares : target.sparesLabels) :
    Blind v w (target.assign scope d) := by
  cases target with
  | name name =>
    simp only [Target.assign]
    exact blind_bindHere (by simpa [Target.sparesLabels] using spares) scope d
  | tuple targets =>
    simp only [Target.assign]
    have given : Blind v w (do
        let values ← liftM (items d)
        if values.length ≠ targets.length then do
          fail
          assignAll scope targets values
        else assignAll scope targets values) := by
      refine Blind.bind (.lift _) fun values => ?_
      split
      · exact Blind.bind .fail fun _ => blind_assignAll scope targets values spares
      · exact blind_assignAll scope targets values spares
    split
    · exact Blind.bind (Blind.bind (.lift _) fun _ => .fail) fun _ => given
    · exact given
  | member space name =>
    simp only [Target.assign]
    refine (blind_nameValue (by simpa [Target.sparesLabels] using spares) scope).bind fun found => ?_
    split
    · exact Blind.bind (.lift _) fun _ => .lift _
    · exact .fail

theorem blind_assignAll (scope : Scope) (targets : List Target) (values : List Datum)
    (spare : allSpareLabels targets) : Blind v w (assignAll scope targets values) := by
  cases targets with
  | nil =>
    simp only [assignAll]
    exact .pure trivial
  | cons target rest =>
    rw [allSpareLabels, Bool.and_eq_true] at spare
    cases values with
    | nil =>
      simp only [assignAll]
      exact .pure trivial
    | cons d values =>
      simp only [assignAll]
      exact (blind_assign scope d target spare.1).bind fun _ =>
        blind_assignAll scope rest values spare.2

end

theorem blind_check (scope : Scope) (target : Target) (spares : target.sparesLabels) :
    Blind v w (target.check scope) := by
  cases target with
  | member space name =>
    simp only [Target.check]
    refine (blind_nameValue (by simpa [Target.sparesLabels] using spares) scope).bind fun found => ?_
    split
    · exact .pure trivial
    · exact .fail
  | _ => exact .pure trivial

theorem blind_bindCaller (frame : Nat) (asks : Bool) (rest : List (String × Datum)) :
    Blind v w (bindCaller frame asks rest) := by
  unfold bindCaller
  split
  · exact (blind_bind (by decide) frame _).bind fun _ => .pure trivial
  · exact .pure trivial

theorem blind_bindBeyond {name : String} (hn : name ≠ labelsName) (frame : Nat)
    (asks isEmpty : Bool) (d : Datum) : Blind v w (bindBeyond frame name asks isEmpty d) := by
  unfold bindBeyond
  split_ifs
  · exact blind_bind hn frame d
  · exact .pure trivial
  · exact .fail

theorem blind_bindParameters (frame : Nat) (reads : List String) {parameters : Parameters}
    (a : Arguments) (looksUp : parametersLookUp parameters) :
    BlindTo v w (fun missing => parametersLookUp missing)
      (bindParameters frame reads parameters a) := by
  have each := parametersLookUp_iff.1 looksUp
  unfold bindParameters
  dsimp only
  refine Blind.bind (Blind.forIn fun p hp => ?_) fun _ => ?_
  · obtain ⟨q, hq, name⟩ := List.mem_map.1 (List.of_mem_zip hp).1
    exact (blind_bind (name ▸ (each q hq).1) frame p.2).bind fun _ => .pure trivial
  -- What is still to be given are parameters of the macro, with their own defaults.
  refine BlindTo.bind (P := fun missing => parametersLookUp missing) ?_ fun missing found => ?_
  · refine (BlindTo.filterMapM fun p hp => ?_).mono fun missing => parametersLookUp_iff.2
    have parameter := each p (List.mem_of_mem_drop hp)
    split
    · exact (blind_bind parameter.1 frame _).bind fun _ => .pure (by simp)
    · exact .pure (by simpa using parameter)
  · refine (blind_bindCaller frame _ _).bind fun rest => ?_
    refine (blind_bindBeyond (by decide) frame _ _ _).bind fun _ => ?_
    refine (blind_bindBeyond (by decide) frame _ _ _).bind fun _ => .pure found

theorem blind_call (h : BlindAt v w n) (f : Datum) (a : Arguments) :
    Blind v w (call (n + 1) f a) := by
  cases f with
  | missing how =>
    simp only [call]
    exact .throw _
  | builtin f =>
    simp only [call]
    exact .lift _
  | method receiver name =>
    simp only [call]
    exact .lift _
  | macroValue name home index =>
    simp only [call]
    refine (blindTo_macro? home index).bind fun found looksUp => ?_
    cases found with
    | none => exact .fail
    | some called =>
      have both := looksUp called rfl
      rw [Macro.looksUp, Bool.and_eq_true] at both
      refine blind_newFrame.bind fun frame => (blind_bindParameters frame _ a both.1).bind
        fun missing open_ => Blind.bind (Blind.forIn fun p hp => ?_) fun _ =>
          (h.runAll _ _ both.2).bind fun _ => .pure trivial
      have parameter := parametersLookUp_iff.1 open_ p hp
      split
      · next hd =>
        rw [hd] at parameter
        exact (h.evaluate _ _ parameter.2).bind fun d =>
          (blind_bind parameter.1 frame d).bind fun _ => .pure trivial
      · exact (blind_bind parameter.1 frame _).bind fun _ => .pure trivial
  | _ =>
    simp only [call]
    exact .fail

theorem blind_throughList {each : Nat → List Datum → Datum → Eval String}
    (h : ∀ i found d, Blind v w (each i found d)) (address limit i : Nat) :
    Blind v w (throughList address each limit i) := by
  induction limit generalizing i with
  | zero => exact .fail
  | succ limit ih =>
    simp only [throughList]
    refine Blind.bind (.lift _) fun store => ?_
    split
    · exact .pure trivial
    · exact (h _ _ _).bind fun _ => (ih (i + 1)).bind fun _ => .pure trivial

theorem blind_throughItems {each : Nat → List Datum → Datum → Eval α}
    (h : ∀ i found d, Blind v w (each i found d)) (found : List Datum)
    (fault : Option RenderFault) : Blind v w (throughItems each found fault) := by
  unfold throughItems
  refine Blind.bind (Blind.mapM fun item _ => h _ _ _) fun parts => ?_
  cases fault with
  | none => exact .pure trivial
  | some fault => exact .throw fault

theorem blind_throughLoop {each : Nat → List Datum → Datum → Eval String}
    {passes : Option (Datum → Eval Bool)} (h : ∀ i found d, Blind v w (each i found d))
    (hp : ∀ f ∈ passes, ∀ d, Blind v w (f d)) (looks : Bool) (d : Datum) :
    Blind v w (throughLoop looks each passes d) := by
  unfold throughLoop
  split
  · exact blind_throughList h _ _ _
  · exact Blind.bind (.lift _) fun found => blind_throughItems h _ _
  · next passes =>
    have passing := hp passes rfl
    refine Blind.bind (.lift _) fun found => ?_
    dsimp only
    split
    · refine Blind.bind (Blind.collect (fun item => ?_) _) fun kept => blind_throughItems h _ _
      exact (passing item).bind fun _ => .pure trivial
    · refine (blind_throughItems (fun i found item => ?_) _ _).bind fun _ => .pure trivial
      refine (passing item).bind fun truth => ?_
      split
      · exact (h i found item).bind fun _ => .pure trivial
      · exact .pure trivial

theorem blind_run (h : BlindAt v w n) (scope : Scope) (node : Node)
    (looksUp : node.looksUp) : Blind v w (run (n + 1) scope node) := by
  cases node with
  | text s =>
    simp only [run]
    exact .pure trivial
  | output e =>
    simp only [run]
    exact (h.evaluate scope e looksUp).bind fun _ => .lift _
  | branch cases otherwise =>
    simp only [run]
    rw [Node.looksUp, Bool.and_eq_true] at looksUp
    have each := casesLookUp_iff.1 looksUp.1
    -- The case that is chosen is one of the statement's own, and so looks labels up by name.
    refine BlindTo.bind (P := fun chosen => ∀ body ∈ chosen, nodesLookUp body) ?_
      fun chosen found => ?_
    · refine BlindTo.foldlM (by simp) fun chosen found c hc => ?_
      cases chosen with
      | some body => exact .pure found
      | none =>
        refine (h.evaluate scope c.1 (each c hc).1).bind fun _ => Blind.bind (.lift _) fun truth => ?_
        split
        · exact .pure (by simpa using (each c hc).2)
        · exact .pure (by simp)
    · cases chosen with
      | none => exact h.runAll scope otherwise looksUp.2
      | some body => exact h.runAll scope body (found body rfl)
  | loop target subject condition body otherwise =>
    simp only [run]
    simp only [Node.looksUp, Bool.and_eq_true] at looksUp
    obtain ⟨⟨⟨⟨spares, hs⟩, hc⟩, hb⟩, ho⟩ := looksUp
    refine (h.evaluate scope subject hs).bind fun d =>
      (blind_throughLoop (fun i found item => ?_) (fun passes hp item => ?_) _ d).bind
        fun parts => ?_
    · have step (frame : Nat) := (blind_assign (frame :: scope) item target spares).bind
        fun _ => h.runAll (frame :: scope) body hb
      refine blind_newFrame.bind fun frame => ?_
      split
      · exact (blind_bind (by decide) frame _).bind fun _ => step frame
      · exact step frame
    · obtain ⟨e, rfl, rfl⟩ := Option.map_eq_some_iff.1 hp
      exact blind_newFrame.bind fun frame => (blind_assign _ item target spares).bind fun _ =>
        (h.evaluate _ e hc).bind fun _ => .lift _
    · split
      · exact blind_newFrame.bind fun frame => h.runAll _ otherwise ho
      · exact .pure trivial
  | assign target e =>
    simp only [run]
    rw [Node.looksUp, Bool.and_eq_true] at looksUp
    exact (blind_check scope target looksUp.1).bind fun _ =>
      (h.evaluate scope e looksUp.2).bind fun d =>
        (blind_assign scope d target looksUp.1).bind fun _ => .pure trivial
  | capture target filters body =>
    simp only [run]
    simp only [Node.looksUp, Bool.and_eq_true] at looksUp
    obtain ⟨⟨spares, chain⟩, nodes⟩ := looksUp
    exact blind_newFrame.bind fun frame => (h.runAll _ body nodes).bind fun s =>
      (blind_check scope target spares).bind fun _ => (h.throughFilters _ filters _ chain).bind fun d =>
        (blind_assign scope d target spares).bind fun _ => .pure trivial
  | scope bindings body =>
    simp only [run]
    simp only [Node.looksUp, Bool.and_eq_true, List.all_eq_true] at looksUp
    refine blind_newFrame.bind fun frame => Blind.bind (Blind.forIn fun b hb => ?_) fun _ =>
      h.runAll _ body looksUp.2
    exact (h.evaluate scope b.2 (looksUp.1 b hb).2).bind fun d =>
      (blind_assign _ d b.1 (looksUp.1 b hb).1).bind fun _ => .pure trivial
  | define name parameters body =>
    simp only [run]
    simp only [Node.looksUp, Bool.and_eq_true, decide_eq_true_eq] at looksUp
    obtain ⟨⟨hn, hp⟩, hb⟩ := looksUp
    have called : (Macro.mk parameters body scope).looksUp := by simp [Macro.looksUp, hp, hb]
    exact (blind_newMacro called _ name).bind fun d =>
      (blind_bindHere hn scope d).bind fun _ => .pure trivial
  | callWith parameters callee arguments body =>
    simp only [run]
    simp only [Node.looksUp, Bool.and_eq_true] at looksUp
    obtain ⟨⟨⟨hp, hc⟩, ha⟩, hb⟩ := looksUp
    have called : (Macro.mk parameters body scope).looksUp := by simp [Macro.looksUp, hp, hb]
    exact (blind_newMacro called _ "caller").bind fun caller =>
      (h.evaluate scope callee hc).bind fun f => (h.passed scope arguments ha).bind fun a =>
        (h.call f _).bind fun _ => .lift _
  | filtered filters body =>
    simp only [run]
    rw [Node.looksUp, Bool.and_eq_true] at looksUp
    exact blind_newFrame.bind fun frame => (h.runAll _ body looksUp.2).bind fun s =>
      (h.throughFilters _ filters _ looksUp.1).bind fun _ => .lift _
  | block name body =>
    simp only [run]
    exact blind_newFrame.bind fun frame => h.runAll _ body looksUp
  | foreign =>
    simp only [run]
    exact .fail

/-- Evaluation does not see the order of labels. -/
theorem blindAt (alike : Alike v w) (n : Nat) : BlindAt v w n := by
  induction n with
  | zero => exact .zero
  | succ n ih => exact {
      evaluate := blind_evaluate alike ih
      optional := blind_optional ih
      passed := blind_passed ih
      call := blind_call ih
      throughFilters := blind_throughFilters ih
      runAll := blind_runAll ih
      run := blind_run ih }

end Template
end MetricPaths
