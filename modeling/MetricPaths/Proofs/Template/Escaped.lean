import MetricPaths.Proofs.Segment.Canonical
import MetricPaths.Proofs.Template.Labels
import MetricPaths.Proofs.Template.Reading

/-! Escaped outputs. A template of literal text and escaped accesses to its data writes the text
as it is and each value as one segment, in whichever form it asks for the escaping. What the values
are makes no difference to the signs that divide a path. -/
namespace MetricPaths
namespace Template
open Eval

/-- Ways into the labels and into the shared data, by dots and by subscripts that are texts. -/
inductive Way where
  | labels
  | shared
  | dot (way : Way) (name : String)
  | item (way : Way) (key : String)
deriving DecidableEq

namespace Way

def expr : Way → Expr
  | labels => .name "labels"
  | shared => .name "shared"
  | dot way name => .member way.expr name
  | item way key => .item way.expr (.literal (.str key))

def ofExpr? : Expr → Option Way
  | .name name =>
    if name = "labels" then some labels else if name = "shared" then some shared else none
  | .member e name => (ofExpr? e).map (dot · name)
  | .item e (.literal (.str key)) => (ofExpr? e).map (item · key)
  | _ => none

theorem ofExpr?_eq_some_iff {e : Expr} {way : Way} : ofExpr? e = some way ↔ e = way.expr := by
  constructor
  · intro h
    fun_induction ofExpr? e generalizing way with
    | case1 => exact Option.some.inj h ▸ rfl
    | case2 => exact Option.some.inj h ▸ rfl
    | case3 => cases h
    | case4 e name ih =>
      obtain ⟨inner, hi, rfl⟩ := Option.map_eq_some_iff.1 h
      rw [ih hi, expr]
    | case5 e key ih =>
      obtain ⟨inner, hi, rfl⟩ := Option.map_eq_some_iff.1 h
      rw [ih hi, expr]
    | case6 => cases h
  · rintro rfl
    induction way with
    | labels | shared => rfl
    | dot way name ih | item way key ih => simp [expr, ofExpr?, ih]

def depth : Way → Nat
  | labels | shared => 1
  | dot way _ | item way _ => way.depth + 1

def value (metric : Metric) (shared : Shared) : Way → Outcome Datum
  | .labels => .ok (labelsView metric)
  | .shared => .ok shared.root
  | .dot way name => do
    (Access.member (← way.value metric shared) name).outcome (start metric shared).heap
  | .item way key => do
    (Access.item (← way.value metric shared) (.plain key)).outcome (start metric shared).heap

end Way

/-- Whatever goes beyond the bound stops without being told why. -/
def within (needed n : Nat) {α : Type} (r : Outcome α) : Outcome α :=
  if needed ≤ n then r else .error .untold

theorem within_bind (needed n : Nat) {α β : Type} (r : Outcome α) (f : α → Outcome β) :
    within needed n r >>= f = within needed n (r >>= f) := by
  unfold within
  split_ifs <;> rfl

theorem within_succ (needed n : Nat) {α : Type} (r : Outcome α) :
    within (needed + 1) (n + 1) r = within needed n r := by
  simp only [within, Nat.add_le_add_iff_right]

theorem le_of_within {needed n : Nat} {α : Type} {r : Outcome α} {a : α}
    (h : within needed n r = .ok a) : needed ≤ n ∧ r = .ok a := by
  unfold within at h
  split_ifs at h with reached
  exact ⟨reached, h⟩

section
variable {metric : Metric} {shared : Shared}

theorem gives_name (n : Nat) {name : String} {d : Datum}
    (h : (context metric shared.root).names.lookup name = some d) :
    Gives (start metric shared) (evaluate (n + 1) [0] (.name name)) (.ok d) := by
  have known : (start metric shared).known [0] name = some d := by
    rw [Machine.known_cons]
    change ((some (context metric shared.root)).bind fun f => f.names.lookup name).or _ = _
    rw [Option.bind_some, h]
    rfl
  have found : exec (nameValue [0] name) (start metric shared) =
      (.ok (((start metric shared).known [0] name).getD (.missing (.name name))),
        start metric shared) := rfl
  rw [Gives, evaluate, found, known]
  rfl

theorem Way.depth_pos (way : Way) : 0 < way.depth := by
  cases way <;> exact Nat.succ_pos _

theorem Way.gives (way : Way) (n : Nat) :
    Gives (start metric shared) (evaluate n [0] way.expr)
      (within way.depth n (way.value metric shared)) := by
  induction way generalizing n with
  | labels | shared =>
    cases n with
    | zero => exact .fail
    | succ n => exact gives_name n rfl
  | dot way name ih =>
    cases n with
    | zero => exact .fail
    | succ n =>
      simp only [Way.expr, evaluate, depth, within_succ, value]
      rw [← within_bind]
      exact (ih n).bind fun d _ => .lift (Access.reads_member d name)
  | item way key ih =>
    cases n with
    | zero => exact .fail
    | succ n =>
      simp only [Way.expr, evaluate, depth, within_succ, value]
      rw [← within_bind]
      refine (ih n).bind fun d hd => ?_
      -- The way in front took a step, so that one is left for the subscript.
      have reached := (le_of_within hd).1
      have := way.depth_pos
      obtain ⟨k, rfl⟩ : ∃ k, n = k + 1 := ⟨n - 1, by omega⟩
      simp only [evaluate, pure_bind]
      exact .lift (Access.reads_item d (.plain key))

inductive Form where
  | filter
  | call
deriving DecidableEq

/-- A piece of a template: literal text or an escaped output. -/
inductive Piece where
  | text (s : String)
  | escaped (form : Form) (way : Way)
deriving DecidableEq

namespace Piece

def node : Piece → Node
  | text s => .text s
  | escaped .filter way => .output (.filter way.expr "escape" [])
  | escaped .call way => .output (.call (.name "escape") [(.positional, way.expr)])

def ofNode? : Node → Option Piece
  | .text s => some (text s)
  | .output (.filter e "escape" []) => (Way.ofExpr? e).map (escaped .filter)
  | .output (.call (.name "escape") [(.positional, e)]) => (Way.ofExpr? e).map (escaped .call)
  | _ => none

theorem ofNode?_eq_some_iff {n : Node} {p : Piece} : ofNode? n = some p ↔ n = p.node := by
  constructor
  · intro h
    unfold ofNode? at h
    split at h
    · exact Option.some.inj h ▸ rfl
    · obtain ⟨way, hw, rfl⟩ := Option.map_eq_some_iff.1 h
      rw [Way.ofExpr?_eq_some_iff.1 hw, node]
    · obtain ⟨way, hw, rfl⟩ := Option.map_eq_some_iff.1 h
      rw [Way.ofExpr?_eq_some_iff.1 hw, node]
    · cases h
  · rintro rfl
    cases p with
    | text s => rfl
    | escaped form way => cases form <;> simp [node, ofNode?, Way.ofExpr?_eq_some_iff]

def depth : Piece → Nat
  | text _ => 1
  | escaped .filter way => way.depth + 2
  | escaped .call way => way.depth + 3

/-- What a piece writes, in whichever form it asks for it. -/
def written (metric : Metric) (shared : Shared) : Piece → Outcome String
  | text s => .ok s
  | escaped _ way => do
    let s ← (← way.value metric shared).text shared.store
    .ok (String.ofList (Segment.escape s.toList))

end Piece

def Way.escaped (metric : Metric) (shared : Shared) (way : Way) : Outcome Datum := do
  let s ← (← way.value metric shared).text shared.store
  .ok (.plain (String.ofList (Segment.escape s.toList)))

theorem reads_escapeSegment (d : Datum) : (Filters.escapeSegment d).Reads :=
  (Op.reads_text d).bind fun _ => .pure _

theorem outcome_escapeSegment (d : Datum) (h : Heap) : (Filters.escapeSegment d).outcome h = (do
    let s ← d.text h.store
    .ok (.plain (String.ofList (Segment.escape s.toList)))) := by
  rw [Filters.escapeSegment, Op.outcome_bind (Op.reads_text d), Op.outcome_text]
  rfl

theorem gives_escapeSegment (d : Datum) :
    Gives (start metric shared) (monadLift (Filters.escapeSegment d)) (do
      let s ← d.text shared.store
      .ok (.plain (String.ofList (Segment.escape s.toList)))) := by
  have gives : Gives (start metric shared) (monadLift (Filters.escapeSegment d)) _ :=
    .lift (reads_escapeSegment d)
  rwa [outcome_escapeSegment] at gives

theorem Way.gives_filter (way : Way) (n : Nat) :
    Gives (start metric shared) (evaluate n [0] (.filter way.expr "escape" []))
      (within (way.depth + 1) n (way.escaped metric shared)) := by
  cases n with
  | zero => exact .fail
  | succ n =>
    have apply (d : Datum) : Filters.apply "escape" d ⟨[], []⟩ = Filters.escapeSegment d := by rfl
    simp only [evaluate, within_succ, escaped]
    rw [← within_bind]
    refine (way.gives n).bind fun d hd => ?_
    have reached := (le_of_within hd).1
    have := way.depth_pos
    obtain ⟨k, rfl⟩ : ∃ k, n = k + 1 := ⟨n - 1, by omega⟩
    rw [passed_nil, pure_bind, apply]
    exact gives_escapeSegment d

theorem passed_sole (n : Nat) (scope : Scope) (e : Expr) :
    passed (n + 1) scope [(.positional, e)] = do return ⟨[← evaluate n scope e], []⟩ := by
  simp [passed]

theorem Way.gives_call (way : Way) (n : Nat) :
    Gives (start metric shared) (evaluate n [0] (.call (.name "escape") [(.positional, way.expr)]))
      (within (way.depth + 2) n (way.escaped metric shared)) := by
  have apply (d : Datum) : Builtin.call .escape ⟨[d], []⟩ = Filters.escapeSegment d := by rfl
  match n with
  | 0 => exact .fail
  | 1 =>
    rw [within, if_neg (by omega)]
    rfl
  | n + 2 =>
    have named : Gives (start metric shared) (evaluate (n + 1) [0] (.name "escape"))
        (.ok (.builtin .escape)) := gives_name n rfl
    rw [within_succ, within_succ, escaped, ← within_bind, evaluate]
    refine named.bind_ok ?_
    rw [passed_sole, bind_assoc]
    refine (way.gives n).bind fun d _ => ?_
    rw [pure_bind, call, apply]
    exact gives_escapeSegment d

theorem gives_output {e : Expr} {needed n : Nat} {r : Outcome Datum}
    (h : Gives (start metric shared) (evaluate n [0] e) (within needed n r)) :
    Gives (start metric shared) (run (n + 1) [0] (.output e))
      (within (needed + 1) (n + 1) (r >>= fun d => d.text shared.store)) := by
  rw [within_succ, ← within_bind, run]
  refine h.bind fun d _ => ?_
  have gives : Gives (start metric shared) (monadLift (Op.text d)) _ := .lift (Op.reads_text d)
  rwa [Op.outcome_text] at gives

theorem Piece.depth_pos (p : Piece) : 0 < p.depth := by
  cases p with
  | text s => exact Nat.one_pos
  | escaped form way => cases form <;> exact Nat.succ_pos _

theorem Piece.gives (p : Piece) (n : Nat) :
    Gives (start metric shared) (run n [0] p.node) (within p.depth n (p.written metric shared)) := by
  cases n with
  | zero =>
    rw [within, if_neg (Nat.not_le.2 p.depth_pos)]
    cases p with
    | text s => rfl
    | escaped form way => cases form <;> rfl
  | succ n =>
    cases p with
    | text s =>
      rw [depth, within, if_pos (Nat.le_add_left 1 n)]
      rfl
    | escaped form way =>
      have written : way.escaped metric shared >>= (fun d => d.text shared.store) =
          written metric shared (.escaped form way) := by
        simp only [Way.escaped, Piece.written, bind_assoc]
        rfl
      rw [← written]
      cases form with
      | filter => exact gives_output (way.gives_filter n)
      | call => exact gives_output (way.gives_call n)

theorem gives_runAll (pieces : List Piece) (n : Nat) :
    Gives (start metric shared) (runAll (n + 1) [0] (pieces.map Piece.node))
      ((pieces.mapM fun p => within p.depth n (p.written metric shared)) >>= fun parts =>
        .ok (String.join parts)) := by
  rw [runAll]
  refine Gives.bind ?_ fun parts _ => .pure _
  rw [List.mapM_map]
  exact .mapM fun p _ => p.gives n

theorem render_of_gives {template : Template} {r : Outcome String}
    (h : Gives (start metric shared) (runAll bound [0] template.body) r) :
    template.render metric shared = (r, shared) := by
  have rendered : template.render metric shared =
      ((exec (runAll bound [0] template.body) (start metric shared)).1,
        shared.left (exec (runAll bound [0] template.body) (start metric shared)).2) := rfl
  have untouched : shared.left (start metric shared) = shared := by
    rw [Shared.left, start, Bool.not_false, Bool.or_true, if_pos rfl]
  rw [rendered, h, untouched]

/-- What a template of pieces writes, and that it leaves the shared data as they are. -/
theorem render_of_pieces {template : Template} {pieces : List Piece}
    (hb : template.body = pieces.map Piece.node) : template.render metric shared =
      ((pieces.mapM fun p => within p.depth (bound - 1) (p.written metric shared)) >>= fun parts =>
        .ok (String.join parts), shared) := by
  refine render_of_gives ?_
  rw [hb]
  exact gives_runAll pieces (bound - 1)

end

def pieces? (source : String) : Option (List Piece) :=
  (compile source).toOption.bind fun template => template.body.mapM Piece.ofNode?

theorem mapM_ofNode?_eq_some_iff {nodes : List Node} {pieces : List Piece} :
    nodes.mapM Piece.ofNode? = some pieces ↔ nodes = pieces.map Piece.node := by
  induction nodes generalizing pieces with
  | nil => cases pieces <;> simp
  | cons n rest ih =>
    cases pieces with
    | nil => simp [Option.bind_eq_some_iff]
    | cons p pieces => simp [Option.bind_eq_some_iff, Piece.ofNode?_eq_some_iff, ih]

theorem pieces?_eq_some_iff {source : String} {pieces : List Piece} :
    pieces? source = some pieces ↔
      ∃ template, compile source = .ok template ∧ template.body = pieces.map Piece.node := by
  rw [pieces?]
  cases compile source with
  | error fault => simp [Except.toOption]
  | ok template => simp [Except.toOption, mapM_ofNode?_eq_some_iff]

def Piece.literal : Piece → String
  | text s => s
  | escaped _ _ => ""

def Piece.formless : Piece → Piece
  | text s => .text s
  | escaped _ way => .escaped .filter way

variable {metric : Metric} {shared : Shared}

theorem mapM_written_formless (pieces : List Piece) :
    (pieces.map Piece.formless).mapM (Piece.written metric shared) =
      pieces.mapM (Piece.written metric shared) := by
  rw [List.mapM_map]
  refine congrArg (fun f => pieces.mapM f) (funext fun p => ?_)
  cases p <;> rfl

theorem Piece.written_escaped_eq_ok_iff {form : Form} {way : Way} {part : String} :
    (escaped form way).written metric shared = .ok part ↔ ∃ d s, way.value metric shared = .ok d ∧
      d.text shared.store = .ok s ∧ part = String.ofList (Segment.escape s.toList) := by
  simp only [written, bind_eq_ok_iff, Except.ok.injEq, exists_and_left, @eq_comm _ part]

theorem Piece.count_written {c : Char} (hc : c ∈ ['.', '/', '=']) {p : Piece} {part : String}
    (h : p.written metric shared = .ok part) : part.toList.count c = p.literal.toList.count c := by
  cases p with
  | text s =>
    cases h
    rfl
  | escaped form way =>
    obtain ⟨d, s, -, -, rfl⟩ := written_escaped_eq_ok_iff.1 h
    rw [String.toList_ofList]
    exact List.count_eq_zero.2 fun hm => (Segment.printable_of_mem_escape hm).2.2 hc

/-- The signs that divide a path are those of the literal text. -/
theorem count_join_of_written {c : Char} (hc : c ∈ ['.', '/', '=']) {pieces : List Piece}
    {parts : List String} (h : pieces.mapM (Piece.written metric shared) = .ok parts) :
    (String.join parts).toList.count c =
      (String.join (pieces.map Piece.literal)).toList.count c := by
  rw [mapM_eq_ok_iff] at h
  induction h with
  | nil => rfl
  | cons here _ ih =>
    simp only [List.map_cons, String.join_cons, String.toList_append, List.count_append, ih,
      Piece.count_written hc here]

theorem renderText_of_compile {source : String} {template : Template}
    (hc : compile source = .ok template) (metric : Metric) (shared : Shared) :
    renderText source metric shared =
      ((template.render metric shared).1.mapError (RenderFault.problem source),
        (template.render metric shared).2) := by
  have read : Libraries.compileTemplate source = .ok template := mapError_eq_ok_iff.2 hc
  rw [renderText, read]
  dsimp only [Libraries.render]
  rcases template.render metric shared with ⟨fault | text, left⟩ <;> rfl

section
variable {source : String} {template : Template} {pieces : List Piece}
  (hc : compile source = .ok template) (hb : template.body = pieces.map Piece.node)
include hc hb

theorem parts_of_renderText {path : String} {left : Shared}
    (h : renderText source metric shared = (.ok path, left)) : left = shared ∧ ∃ parts,
      pieces.mapM (Piece.written metric shared) = .ok parts ∧ path = String.join parts := by
  rw [renderText_of_compile hc, render_of_pieces hb] at h
  cases hp : pieces.mapM fun p => within p.depth (bound - 1) (p.written metric shared) with
  | error fault =>
    rw [hp] at h
    cases h
  | ok parts =>
    rw [hp] at h
    cases h
    refine ⟨rfl, parts, mapM_eq_ok_iff.2 ?_, rfl⟩
    exact (mapM_eq_ok_iff.1 hp).imp fun p part hw => (le_of_within hw).2

theorem renderText_of_parts (shallow : ∀ p ∈ pieces, p.depth < bound) {parts : List String}
    (h : pieces.mapM (Piece.written metric shared) = .ok parts) :
    renderText source metric shared = (.ok (String.join parts), shared) := by
  have reached : (pieces.mapM fun p => within p.depth (bound - 1) (p.written metric shared)) =
      .ok parts := by
    have each := (List.forall₂_and_left _ _).2 ⟨shallow, mapM_eq_ok_iff.1 h⟩
    refine mapM_eq_ok_iff.2 (each.imp fun p part hp => ?_)
    rw [within, if_pos (Nat.le_sub_one_of_lt hp.1), hp.2]
  rw [renderText_of_compile hc, render_of_pieces hb, reached]
  rfl

/-- What a template of pieces writes is its literal text and between it the text of each value as
one segment, which is read back as that text; in which form the escaping is asked for makes no
difference. Whatever the metric and the data are, the path is divided in the same way. -/
theorem escaped_outputs_keep_structure :
    (∀ metric shared path left, renderText source metric shared = (.ok path, left) →
      left = shared ∧ ∃ parts, pieces.mapM (Piece.written metric shared) = .ok parts ∧
        path = String.join parts) ∧
    (∀ metric shared parts, (∀ p ∈ pieces, p.depth < bound) →
      pieces.mapM (Piece.written metric shared) = .ok parts →
      renderText source metric shared = (.ok (String.join parts), shared)) ∧
    (∀ metric shared form way part, (Piece.escaped form way).written metric shared = .ok part →
      ∃ d s, way.value metric shared = .ok d ∧ d.text shared.store = .ok s ∧
        part = String.ofList (Segment.escape s.toList) ∧
        Segment.unescape part.toList = .ok s.toList) ∧
    (∀ (source' : String) (template' : Template) (pieces' : List Piece),
      compile source' = .ok template' → template'.body = pieces'.map Piece.node →
      pieces.map Piece.formless = pieces'.map Piece.formless →
      ∀ metric shared path left path' left', renderText source metric shared = (.ok path, left) →
        renderText source' metric shared = (.ok path', left') → path = path') ∧
    ∀ metric shared path left metric' shared' path' left',
      renderText source metric shared = (.ok path, left) →
      renderText source metric' shared' = (.ok path', left') →
      ∀ c ∈ ['.', '/', '='], path.toList.count c = path'.toList.count c := by
  refine ⟨fun _ _ _ _ h => parts_of_renderText hc hb h,
    fun _ _ _ shallow h => renderText_of_parts hc hb shallow h, ?_, ?_, ?_⟩
  · intro metric shared form way part h
    obtain ⟨d, s, hd, hs, rfl⟩ := Piece.written_escaped_eq_ok_iff.1 h
    refine ⟨d, s, hd, hs, rfl, ?_⟩
    rw [String.toList_ofList, Segment.unescape_escape]
  · intro source' template' pieces' hc' hb' same metric shared path left path' left' h h'
    obtain ⟨-, parts, hp, rfl⟩ := parts_of_renderText hc hb h
    obtain ⟨-, parts', hp', rfl⟩ := parts_of_renderText hc' hb' h'
    rw [← mapM_written_formless, ← same, mapM_written_formless, hp] at hp'
    rw [Except.ok.inj hp']
  · intro metric shared path left metric' shared' path' left' h h' c hdivides
    obtain ⟨-, parts, hp, rfl⟩ := parts_of_renderText hc hb h
    obtain ⟨-, parts', hp', rfl⟩ := parts_of_renderText hc hb h'
    rw [count_join_of_written hdivides hp, count_join_of_written hdivides hp']

end

def twoForms : String :=
  "a.\x7b\x7b labels.job | escape \x7d\x7d/\x7b\x7b escape(shared['zone'].id) \x7d\x7d"

def twoPieces : List Piece :=
  [.text "a.", .escaped .filter (.dot .labels "job"), .text "/",
    .escaped .call (.dot (.item .shared "zone") "id")]

theorem pieces?_twoForms : pieces? twoForms = some twoPieces := by decide +kernel

def zoned (id : Value) : Shared := .ofValue (.map [(.str "zone", .map [(.str "id", id)])])

def metricOf (job : String) : Metric := .ofList [(nameLabel, "up"), ("job", job)]

theorem escaped_outputs_sample : ∃ path path',
    renderText twoForms (metricOf "x.y") (zoned (.int 7)) = (.ok path, zoned (.int 7)) ∧
    renderText twoForms (metricOf "/=") (zoned (.list [.str "a.b"])) =
      (.ok path', zoned (.list [.str "a.b"])) ∧
    path = "a.x%2Ey/7" ∧ path.toList.count '.' = path'.toList.count '.' := by
  obtain ⟨template, hc, hb⟩ := pieces?_eq_some_iff.1 pieces?_twoForms
  obtain ⟨-, writes, -, -, divided⟩ := escaped_outputs_keep_structure hc hb
  have shallow : ∀ p ∈ twoPieces, p.depth < bound := by decide
  have first : twoPieces.mapM (Piece.written (metricOf "x.y") (zoned (.int 7))) =
      .ok ["a.", "x%2Ey", "/", "7"] := by decide +kernel
  have second : ∃ parts, twoPieces.mapM (Piece.written (metricOf "/=")
      (zoned (.list [.str "a.b"]))) = .ok parts := exists_of_isOk (by decide +kernel)
  obtain ⟨parts, second⟩ := second
  have path := writes _ _ _ shallow first
  have path' := writes _ _ _ shallow second
  exact ⟨_, _, path, path', rfl, divided _ _ _ _ _ _ _ _ path path' '.' (by decide)⟩

end Template
end MetricPaths
