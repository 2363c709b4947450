import Mathlib
import MetricPaths.Proofs.RulesFile

/-! Numbers of any length in a rules file. A plain scalar of hexadecimal digits stands for a whole
number however many they are, so that a rule can have a predicate for a label which is a number
that is too long to be told. -/
namespace MetricPaths
namespace Yaml

def powerOfSixteen (n : Nat) : List Char := '0' :: 'x' :: '1' :: List.replicate n '0'

theorem forall_powerOfSixteen {p : Char → Prop} (zero : p '0') (mark : p 'x') (one : p '1')
    (n : Nat) : ∀ c ∈ powerOfSixteen n, p c := by
  intro c hc
  simp only [powerOfSixteen, List.mem_cons, List.mem_replicate] at hc
  rcases hc with rfl | rfl | rfl | ⟨-, rfl⟩
  · exact zero
  · exact mark
  · exact one
  · exact zero

section Tag

theorem contains_ofList_eq_false {words : List String} {s : List Char} {c : Char}
    (hs : s.head? = some c) (h : ∀ w ∈ words, w.toList.head? ≠ some c) :
    words.contains (String.ofList s) = false := by
  rw [Bool.eq_false_iff, Ne, List.contains_iff_mem]
  intro mem
  exact h _ mem (by rw [String.toList_ofList, hs])

theorem isFloat_powerOfSixteen (n : Nat) : isFloat (powerOfSixteen n) = false := by
  have nan (w : String) (hw : w.toList.head? ≠ some '0') : String.ofList (powerOfSixteen n) ≠ w := by
    rintro rfl
    exact hw (by rw [String.toList_ofList]; rfl)
  have inf : [".inf", ".Inf", ".INF"].contains (String.ofList (unsigned (powerOfSixteen n))) = false :=
    contains_ofList_eq_false rfl (by decide)
  simp only [isFloat, inf, nan ".nan" (by decide), nan ".NaN" (by decide), nan ".NAN" (by decide)]
  rfl

theorem isInt_powerOfSixteen (n : Nat) : isInt (powerOfSixteen n) = true := by
  simp [isInt, powerOfSixteen, unsigned, Cut.hexValue?]

theorem impliedTag_powerOfSixteen (n : Nat) :
    impliedTag (String.ofList (powerOfSixteen n)) = .int := by
  have nulls : ["", "~", "null", "Null", "NULL"].contains (String.ofList (powerOfSixteen n)) = false :=
    contains_ofList_eq_false rfl (by decide)
  have truths : ["yes", "Yes", "YES", "no", "No", "NO", "true", "True", "TRUE", "false", "False",
      "FALSE", "on", "On", "ON", "off", "Off", "OFF"].contains (String.ofList (powerOfSixteen n)) =
      false :=
    contains_ofList_eq_false rfl (by decide)
  simp only [impliedTag, nulls, truths, String.toList_ofList, isFloat_powerOfSixteen,
    isInt_powerOfSixteen]
  rfl

end Tag

section Number

theorem strip_of_forall {s : List Char} (h : ∀ c ∈ s, Classes.isBlank c = false) :
    Classes.strip s = s := by
  have drop {t : List Char} (ht : ∀ c ∈ t, Classes.isBlank c = false) :
      t.dropWhile Classes.isBlank = t := by
    cases t with
    | nil => rfl
    | cons c t => rw [List.dropWhile_cons, if_neg (by simp [ht c List.mem_cons_self])]
  rw [Classes.strip, Classes.stripLeft, drop h, Classes.stripRight,
    drop fun c hc => h c (List.mem_reverse.1 hc), List.reverse_reverse]

theorem foldlM_zeros {step : Nat → Char → Option Nat} (h : ∀ a, step a '0' = some (a * 16))
    (n a : Nat) : (List.replicate n '0').foldlM step a = some (a * Nat.pow 16 n) := by
  induction n generalizing a with
  | zero => simp
  | succ n ih =>
    have power : Nat.pow 16 (n + 1) = 16 * Nat.pow 16 n := Nat.mul_comm _ _
    rw [List.replicate_succ, List.foldlM_cons, h, Option.bind_eq_bind, Option.bind_some, ih, power,
      Nat.mul_assoc]

theorem integerIn?_powerOfSixteen (n : Nat) :
    Numeral.integerIn? 16 ('1' :: List.replicate n '0') = some (Nat.pow 16 n : Int) := by
  have noBlank : ∀ c ∈ powerOfSixteen n, Classes.isBlank c = false :=
    forall_powerOfSixteen (by decide) (by decide) (by decide) n
  have strip : Classes.strip ('1' :: List.replicate n '0') = '1' :: List.replicate n '0' :=
    strip_of_forall fun c hc => noBlank c (List.mem_cons_of_mem _ (List.mem_cons_of_mem _ hc))
  rw [Numeral.integerIn?, if_neg (by decide), strip]
  let digit? (c : Char) : Option Nat :=
    ((Classes.digitValue? c).or
      (if 'a' ≤ c.toLower && c.toLower ≤ 'z' then some (c.toLower.toNat - 87) else none)).filter (· < 16)
  let step (acc : Nat) (c : Char) : Option Nat := (digit? c).map (acc * 16 + ·)
  have zero : digit? '0' = some 0 := by decide
  have one : digit? '1' = some 1 := by decide
  have first : step 0 '1' = some 1 := by simp [step, one]
  change Option.map (fun i : Int => i)
    ((('1' :: List.replicate n '0').foldlM step 0).bind fun n => some (n : Int)) = _
  rw [List.foldlM_cons, first, Option.bind_eq_bind, Option.bind_some,
    foldlM_zeros (by simp [step, zero]), Nat.one_mul, Option.bind_some, Option.map_some]

/-- Only the digits of decimal numbers are counted. -/
theorem Scalar.int_powerOfSixteen (n : Nat) :
    Scalar.int (powerOfSixteen n) = .ok (Nat.pow 16 n : Int) := by
  have low : withoutLow (powerOfSixteen n) = powerOfSixteen n := by
    simp [withoutLow, powerOfSixteen]
  have whole : whole 16 ('1' :: List.replicate n '0') = .ok (Nat.pow 16 n : Int) := by
    rw [Scalar.whole, integerIn?_powerOfSixteen]
    simp
  have step : Scalar.int (powerOfSixteen n) =
      (Scalar.whole 16 ('1' :: List.replicate n '0')).bind fun i => .ok i := by
    rw [Scalar.int, low]
    rfl
  rw [step, whole]
  rfl

end Number

namespace Node
variable {n : Nat}

theorem value_int (text : String) (n : Nat) :
    (scalar .int text).value (n + 1) = (Scalar.int text.toList).map .int := rfl

theorem value_str (text : String) (n : Nat) :
    (scalar .str text).value (n + 1) = .ok (.str text) := by
  change Except.ok (Value.str (String.ofList text.toList)) = _
  rw [String.ofList_toList]

theorem item_eq {v : Node} {b : Value} (hv : v.value n = .ok b) :
    (if isCollection v.tag then deeper (v.value n) else v.value n) = .ok b := by
  rw [hv]
  exact ite_self _

theorem value_sole {v : Node} {b : Value} (hv : v.value n = .ok b) :
    (sequence .seq [v]).value (n + 1) = .ok (.list [b]) := by
  change (inOrder [if isCollection v.tag then deeper (v.value n) else v.value n]).map Value.list = _
  rw [item_eq hv]
  rfl

theorem value_pair {k v : Node} {a b : Value} (single : k.tag = .int ∨ k.tag = .str)
    (hk : k.value n = .ok a) (hv : v.value n = .ok b) :
    (mapping .map [(k, v)]).value (n + 1) = .ok (.map [(a, b)]) := by
  have merged : merged (n + 1) (.mapping .map [(k, v)]) = .ok [(k, v)] := by
    rcases single with h | h <;> simp [Node.merged, h] <;> rfl
  have key : (if isCollection k.tag then blame .malformed
      else if k.tag = .value then k.text.map fun s => .str (String.ofList s) else k.value n) =
      .ok a := by
    rcases single with h | h <;> rw [h] <;> exact hk
  change ((Node.merged (n + 1) (.mapping .map [(k, v)])).bind fun found =>
    (inOrder (found.flatMap fun e =>
      [if isCollection e.1.tag then blame .malformed
        else if e.1.tag = .value then e.1.text.map fun s => .str (String.ofList s)
        else e.1.value n,
        if isCollection e.2.tag then deeper (e.2.value n) else e.2.value n])).bind fun made =>
      .ok (value.pairUp made)).map (fun es => Value.map (Value.collect es)) = _
  rw [merged]
  change ((inOrder [_, _]).bind fun made => .ok (value.pairUp made)).map
    (fun es => Value.map (Value.collect es)) = _
  rw [key, item_eq hv]
  rfl

end Node

/-! A text of one rule with one predicate, up to the label and behind it. -/

def front : List Char := "write:\n  rules:\n  - match:\n      ? ".toList

def back : List Char := "\n      : x\n".toList

def labelled (label : List Char) : List Char := front ++ (label ++ back)

namespace Cut

theorem plainPart_append {cs : List Char} (h : ∀ c ∈ cs, plainEnds false c none = false)
    (h' : ∀ c ∈ cs, c ≠ ':') (t : List Char) : plainPart false (cs ++ '\n' :: t) = cs := by
  induction cs with
  | nil => rfl
  | cons c cs ih =>
    obtain ⟨hc, hcs⟩ := List.forall_mem_cons.1 h
    obtain ⟨hc', hcs'⟩ := List.forall_mem_cons.1 h'
    have goesOn : plainEnds false c (cs ++ '\n' :: t).head? = false := by
      simp only [plainEnds, hc', Bool.or_eq_false_iff] at hc ⊢
      exact ⟨⟨hc.1.1, rfl⟩, rfl⟩
    rw [List.cons_append, plainPart, goesOn, ih hcs hcs']
    rfl

theorem forward_append {cs : List Char} (h : ∀ c ∈ cs, isBreak c = false ∧ c ≠ byteOrderMark)
    (t : List Char) (index line column : Nat) :
    Place.forward cs.length ⟨cs ++ t, index, line, column⟩ =
      ⟨t, index + cs.length, line, column + cs.length⟩ := by
  induction cs generalizing index column with
  | nil => rfl
  | cons c cs ih =>
    obtain ⟨⟨hb, hm⟩, hcs⟩ := List.forall_mem_cons.1 h
    have next : Place.next ⟨c :: (cs ++ t), index, line, column⟩ =
        ⟨cs ++ t, index + 1, line, column + 1⟩ := by
      simp [Place.next, hb, hm]
    rw [List.length_cons, Place.forward, List.cons_append, next, ih hcs]
    simp only [Nat.add_assoc, Nat.add_comm 1]

theorem allTokens_succ {s s' : Cutting} {atEnd : Bool} (h : token.run s = .ok (atEnd, s'))
    (m : Nat) :
    (allTokens (m + 1)).run s = if atEnd then .ok ((), s') else (allTokens m).run s' := by
  have step : (allTokens (m + 1)).run s =
      (token.run s).bind fun r => (if r.1 then pure () else allTokens m).run r.2 := rfl
  rw [step, h]
  cases atEnd <;> rfl

def word (s : String) : Token := .scalar s true

def opening : List Token :=
  [.blockMappingStart, .key, word "write", .value, .blockMappingStart, .key, word "rules", .value,
    .blockEntry, .blockMappingStart, .key, word "match", .value, .blockMappingStart, .key]

/-- The tokens up to a label and some behind it. -/
def around (label : String) (tokens : List Token) : List Token :=
  opening ++ .scalar label true :: tokens

def closing : List Token :=
  [.value, word "x", .blockEnd, .blockEnd, .blockEnd, .blockEnd, .streamEnd]

def start (t : List Char) : Cutting := ⟨Place.ofText t, #[], -1, [], 0, true, []⟩

/-- Inside the mapping of the predicates, which the mapping of the rule, that of the rules and that
of the document are around. -/
def inside (place : Place) (tokens : List Token) (keyAllowed : Bool)
    (keys : List (Nat × PossibleKey)) : Cutting :=
  ⟨place, tokens.toArray, 6, [4, 2, 0, -1], 0, keyAllowed, keys⟩

def labelKey : Nat × PossibleKey := (0, ⟨15, false, 35, 3, 8⟩)

def before (t : List Char) : Cutting := inside ⟨t, 34, 3, 7⟩ opening true []

/-- At the label, which is noted as a possible key. -/
def noted (t : List Char) : Cutting := inside ⟨t, 35, 3, 8⟩ opening false [labelKey]

def behind (index : Nat) (tokens : List Token) : Cutting :=
  inside ⟨": x\n".toList, index, 4, 6⟩ tokens true [labelKey]

theorem allTokens_front (t : List Char) (m : Nat) :
    (allTokens (m + 8)).run (start (front ++ t)) = (allTokens m).run (before (' ' :: t)) := by
  cbv
  cases m <;> rfl

theorem token_colon (text : String) (index : Nat) :
    token.run (behind index (around text [])) =
      .ok (false, inside ⟨" x\n".toList, index + 1, 4, 7⟩ (around text [.value]) true []) := by
  rfl

theorem token_value (text : String) (index : Nat) :
    token.run (inside ⟨" x\n".toList, index, 4, 7⟩ (around text [.value]) true []) =
      .ok (false, inside ⟨[], index + 3, 5, 0⟩ (around text [.value, word "x"]) true
        [(0, ⟨17, false, index + 1, 4, 8⟩)]) := by
  cbv

theorem token_end (text : String) (index key : Nat) :
    token.run (inside ⟨[], index, 5, 0⟩ (around text [.value, word "x"]) true
        [(0, ⟨17, false, key, 4, 8⟩)]) =
      .ok (true, ⟨⟨[], index, 5, 0⟩, (around text closing).toArray, -1, [], 0, false, []⟩) := by
  rfl

theorem plainSpaces_back (limit index column : Nat) :
    (plainSpaces (limit + 1)).run (inside ⟨back, index, 3, column⟩ opening false [labelKey]) =
      .ok ([' '], behind (index + 7) opening) := by
  rfl

/-- A label begins with zero, all of it is plain, and it lies on one line. -/
structure IsLabel (label : List Char) : Prop where
  head_eq : label.head? = some '0'
  plainPart_eq : plainPart false (label ++ back) = label
  forward_eq : Place.forward label.length ⟨label ++ back, 35, 3, 8⟩ =
    ⟨back, 35 + label.length, 3, 8 + label.length⟩

variable {label : List Char}

theorem token_label (h : IsLabel label) : token.run (before (' ' :: (label ++ back))) =
    (plainScalar.run (noted (label ++ back))).bind fun r => .ok (false, r.2) := by
  obtain ⟨cs, rfl⟩ : ∃ cs, label = '0' :: cs := List.head?_eq_some_iff.1 h.head_eq
  have first (t : List Char) : token.run (before (' ' :: '0' :: t)) =
      (plainScalar.run (noted ('0' :: t))).bind fun r => .ok (false, r.2) := by
    rfl
  exact first (cs ++ back)

theorem plainTail_label (h : IsLabel label) (limit : Nat) :
    (plainTail (limit + 1) [] (limit + 1)).run (noted (label ++ back)) =
      .ok (label, behind (35 + label.length + 7) opening) := by
  obtain ⟨cs, rfl⟩ : ∃ cs, label = '0' :: cs := List.head?_eq_some_iff.1 h.head_eq
  have plain := h.plainPart_eq
  have past := h.forward_eq
  have spaces := plainSpaces_back limit (35 + ('0' :: cs).length) (8 + ('0' :: cs).length)
  rw [List.cons_append] at plain past ⊢
  have step (t : List Char) : (plainTail (limit + 1) [] (limit + 1)).run (noted ('0' :: t)) =
      if (plainPart false ('0' :: t)).isEmpty then .ok ([], noted ('0' :: t))
      else ((do
        let more ← plainSpaces (limit + 1)
        let after ← get
        if more.isEmpty || after.place.rest.head? = some '#' ||
            (after.flow = 0 && (after.place.column : Int) < after.indent + 1) then
          return plainPart false ('0' :: t)
        return plainPart false ('0' :: t) ++ (← plainTail (limit + 1) more limit) :
          Cut (List Char)).run
        (inside (Place.forward (plainPart false ('0' :: t)).length ⟨'0' :: t, 35, 3, 8⟩) opening
          false [labelKey])) := by
    rfl
  rw [step, plain, past, if_neg (by simp), StateT.run_bind, spaces]
  rfl

theorem plainScalar_label (h : IsLabel label) : plainScalar.run (noted (label ++ back)) =
    .ok ((), behind (35 + label.length + 7) (around (String.ofList label) [])) := by
  have run : plainScalar.run (noted (label ++ back)) =
      ((plainTail ((label ++ back).length + 1) [] ((label ++ back).length + 1)).run
        (noted (label ++ back))).bind fun r =>
          .ok ((), { r.2 with tokens := r.2.tokens.push (.scalar (String.ofList r.1) true) }) := by
    rfl
  rw [run, plainTail_label h]
  rfl

theorem allTokens_labelled (h : IsLabel label) (m : Nat) : ∃ last,
    (allTokens (m + 4 + 8)).run (start (labelled label)) = .ok ((), last) ∧
      last.tokens.toList = around (String.ofList label) closing := by
  have tokenLabel := token_label h
  rw [plainScalar_label h] at tokenLabel
  rw [labelled, allTokens_front, allTokens_succ tokenLabel, if_neg (by simp),
    allTokens_succ (token_colon _ _), if_neg (by simp), allTokens_succ (token_value _ _),
    if_neg (by simp), allTokens_succ (token_end _ _ _), if_pos rfl]
  exact ⟨_, rfl, rfl⟩

theorem isLabel_powerOfSixteen (n : Nat) : IsLabel (powerOfSixteen n) := by
  refine ⟨rfl, plainPart_append ?_ ?_ _, forward_append ?_ back 35 3 8⟩
  · exact forall_powerOfSixteen (by decide) (by decide) (by decide) n
  · exact forall_powerOfSixteen (by decide) (by decide) (by decide) n
  · exact forall_powerOfSixteen (by decide) (by decide) (by decide) n

end Cut

theorem Token.ofText_labelled (n : Nat) : Token.ofText (labelled (powerOfSixteen n)) =
    .ok (Cut.around (String.ofList (powerOfSixteen n)) Cut.closing) := by
  have allowed : (labelled (powerOfSixteen n)).all isAllowed := by
    rw [labelled, List.all_append, List.all_append, Bool.and_eq_true, Bool.and_eq_true]
    refine ⟨by decide +kernel, List.all_eq_true.2 ?_, by decide +kernel⟩
    exact forall_powerOfSixteen (by decide) (by decide) (by decide) n
  have noMark : (labelled (powerOfSixteen n)).head? ≠ some byteOrderMark := by
    have first : front.head? = some 'w' := by decide +kernel
    rw [labelled, List.head?_append, first, Option.some_or]
    decide +kernel
  obtain ⟨m, length⟩ : ∃ m, (labelled (powerOfSixteen n)).length + 2 = m + 4 + 8 := by
    have long : 10 ≤ (labelled (powerOfSixteen n)).length := by
      rw [labelled, List.length_append]
      exact Nat.le_add_right_of_le (by decide +kernel)
    exact ⟨(labelled (powerOfSixteen n)).length - 10, by omega⟩
  obtain ⟨last, run, tokens⟩ := Cut.allTokens_labelled (Cut.isLabel_powerOfSixteen n) m
  rw [Token.ofText, if_pos allowed, length, ← tokens]
  simp only [if_neg noMark]
  rw [Cut.start] at run
  rw [run]

def labelledNode (label : Node) : Node :=
  .mapping .map [(.scalar .str "write", .mapping .map [(.scalar .str "rules", .sequence .seq
    [.mapping .map [(.scalar .str "match", .mapping .map [(label, .scalar .str "x")])]])])]

theorem Read.document_labelled (text : String) :
    (document (4 * 23 + 8)).run
      ⟨Cut.around text Cut.closing, standardHandles, []⟩ =
      .ok (some (labelledNode (.scalar (impliedTag text) text)),
        ⟨[.streamEnd], standardHandles, []⟩) := by
  rfl

end Yaml

namespace Value

theorem isWritable_natCast {n : Nat} : (Value.int n).isWritable ↔ n < Nat.pow 10 digitLimit := by
  rw [isWritable, decide_eq_true_iff, Int.natAbs_natCast]

theorem pow_lt_iff_of_bracket {base last bound n : Nat} (positive : 0 < base)
    (below : Nat.pow base last < bound) (above : ¬ Nat.pow base (last + 1) < bound) :
    Nat.pow base n < bound ↔ n < last + 1 := by
  constructor
  · intro h
    by_contra beyond
    exact above (Nat.lt_of_le_of_lt (Nat.pow_le_pow_right positive (Nat.not_lt.1 beyond)) h)
  · intro h
    exact Nat.lt_of_le_of_lt (Nat.pow_le_pow_right positive (Nat.le_of_lt_succ h)) below

theorem isWritable_powerOfSixteen (n : Nat) :
    (Value.int (Nat.pow 16 n)).isWritable ↔ n < 3572 := by
  rw [isWritable_natCast]
  exact pow_lt_iff_of_bracket (by decide) (by decide +kernel) (by decide +kernel)

def labelledRule (label : Value) : Value := .map [(.str "match", .map [(label, .str "x")])]

def labelled (label : Value) : Value :=
  .map [(.str "write", .map [(.str "rules", .list [labelledRule label])])]

end Value

namespace Yaml

theorem read_of_node {s : List Char} {node : Node} {v : Value} (h : Node.ofText? s = .ok (some node))
    (hv : node.value (node.size + 1) = .ok v) : read s = .ok v := by
  rw [read, h]
  dsimp only [bind, Except.bind]
  rw [hv]
  rfl

/-- A label of any length is read. -/
theorem read_labelled (n : Nat) :
    read (labelled (powerOfSixteen n)) = .ok (.labelled (.int (Nat.pow 16 n))) := by
  have made : Node.ofText? (labelled (powerOfSixteen n)) =
      .ok (some (labelledNode (.scalar .int (String.ofList (powerOfSixteen n))))) := by
    rw [Node.ofText?, Token.ofText_labelled, ← impliedTag_powerOfSixteen n]
    exact congrArg (fun r => r.bind fun r => .ok r.1)
      (Read.document_labelled (String.ofList (powerOfSixteen n)))
  have int (k : Nat) : (Node.scalar .int (String.ofList (powerOfSixteen n))).value (k + 1) =
      .ok (.int (Nat.pow 16 n)) := by
    rw [Node.value_int, String.toList_ofList, Scalar.int_powerOfSixteen]
    rfl
  have value : (labelledNode (.scalar .int (String.ofList (powerOfSixteen n)))).value 11 = _ :=
    Node.value_pair (.inr rfl) (Node.value_str _ _) (Node.value_pair (.inr rfl)
      (Node.value_str _ _) (Node.value_sole (Node.value_pair (.inr rfl) (Node.value_str _ _)
        (Node.value_pair (.inl rfl) (int 5) (Node.value_str _ _)))))
  have size (label : String) : (labelledNode (.scalar .int label)).size + 1 = 11 := by rfl
  exact read_of_node made (by rw [size, value]; rfl)

end Yaml

theorem Content.unixLines_of_notMem {s : List Char} (h : '\r' ∉ s) : unixLines s = s := by
  induction s with
  | nil => rfl
  | cons c s ih =>
    rw [List.mem_cons, not_or] at h
    rw [unixLines, ih h.2]
    · rintro _ rfl
      exact absurd rfl h.1
    · rintro rfl
      exact absurd rfl h.1

theorem Rule.parse_labelledRule (i : Int) :
    parse (Value.labelledRule (.int i)) = .error (.predicateNotText "match" (.int i)) := by
  have fields : checkFields [(.str "match", .map [(.int i, .str "x")])] = .ok () :=
    checkFields_eq_ok_iff.2 (unknownFields_eq_nil_iff.2 (by simp [fieldNames]))
  rw [parse, Value.labelledRule]
  dsimp only [Value.entries?]
  rw [fields]
  rfl

namespace Config

def labelledFile (n : Nat) : Files :=
  [("r.yaml", .bytes (Utf8.encode (Yaml.labelled (Yaml.powerOfSixteen n))))]

theorem documentFor_labelledFile (n : Nat) : documentFor (labelledFile n) (some "r.yaml") .standard =
    .ok (.labelled (.int (Nat.pow 16 n))) := by
  have found : (labelledFile n).find? "r.yaml" =
      .ok (some (.bytes (Utf8.encode (Yaml.labelled (Yaml.powerOfSixteen n))))) := by rfl
  have file : fileToLoad (some "r.yaml") .standard = some "r.yaml" := by decide +kernel
  have noReturn : '\r' ∉ Yaml.labelled (Yaml.powerOfSixteen n) := by
    have label : ∀ c ∈ Yaml.powerOfSixteen n, c ≠ '\r' :=
      Yaml.forall_powerOfSixteen (by decide) (by decide) (by decide) n
    rw [Yaml.labelled, List.mem_append, List.mem_append, not_or, not_or]
    exact ⟨by decide +kernel, fun h => label _ h rfl, by decide +kernel⟩
  have text : Content.text (.bytes (Utf8.encode (Yaml.labelled (Yaml.powerOfSixteen n)))) =
      .ok (Yaml.labelled (Yaml.powerOfSixteen n)) := by
    rw [Content.text, Utf8.decode_encode]
    exact congrArg Except.ok (Content.unixLines_of_notMem noReturn)
  have read : Libraries.readYaml (Utf8.encode (Yaml.labelled (Yaml.powerOfSixteen n))) =
      .ok (.labelled (.int (Nat.pow 16 n))) := by
    rw [Libraries.readYaml, text]
    dsimp only
    rw [Yaml.read_labelled]
    rfl
  rw [documentFor_of_file file, readFile, found]
  dsimp only
  rw [documentOf]
  simp only [show Libraries.readDocument _ = _ from read]

theorem blames_labelledFile (n : Nat) : Blames (labelledFile n) (some "r.yaml") .standard
    [.labelledRule (.int (Nat.pow 16 n))] 0 (.predicateNotText "match" (.int (Nat.pow 16 n))) :=
  ⟨⟨_, _, .dotted, documentFor_labelledFile n, ⟨_, _, _, rfl, rfl, rfl, rfl, rfl⟩, rfl, rfl⟩,
    .here (Rule.parse_labelledRule _)⟩

end Config
end MetricPaths
