import MetricPaths.Command
import MetricPaths.Proofs.Except

/-! How the end of a command is told. A failure gives the exit code of its kind, is told with all of
its details and logged once, and whether it is logged makes no difference to the rest. What stands
in the way is a detail under a name that the log has for itself, one that has no JSON, and one that
cannot be written. -/
namespace MetricPaths

theorem Log.clash?_eq_none_iff {ownFields : List String} {details : Details} :
    clash? ownFields details = none ↔ ∀ e ∈ details, e.1 ∉ callNames ++ ownFields := by
  have split : (∀ e ∈ details, e.1 ∉ callNames ++ ownFields) ↔
      (∀ e ∈ details, e.1 ∉ ownFields) ∧ ∀ e ∈ details, e.1 ∉ callNames := by
    simp only [List.mem_append, not_or, forall_and, and_comm]
  rw [clash?, split]
  split_ifs with own call
  · obtain ⟨e, he, hc⟩ := List.any_eq_true.1 own
    simp only [false_iff]
    exact fun free => free.1 e he (List.contains_iff_mem.1 hc)
  · obtain ⟨e, he, hc⟩ := List.any_eq_true.1 call
    simp only [false_iff]
    exact fun free => free.2 e he (List.contains_iff_mem.1 hc)
  · simp only [true_iff]
    simp only [List.any_eq_true, List.contains_iff_mem, not_exists, not_and] at own call
    exact ⟨own, call⟩

namespace Log.Entry

theorem lookup_eq_none {name : String} {details : Details} (absent : ∀ e ∈ details, e.1 ≠ name) :
    details.lookup name = none := by
  rw [List.lookup_eq_none_iff]
  exact fun e he => bne_iff_ne.2 (absent e he).symm

theorem line_eq {e : Entry} (plain : ∀ f ∈ e.fields, f.1 ∉ reservedNames) : e.line = e.fields := by
  have kept : (e.fields.filter fun f => !reservedNames.contains f.1) = e.fields := by
    refine List.filter_eq_self.2 fun f hf => ?_
    simpa using plain f hf
  have absent (name : String) (reserved : name ∈ reservedNames) : e.fields.lookup name = none :=
    lookup_eq_none fun f hf same => plain f hf (same ▸ reserved)
  have stack := absent "stack_info" (by decide)
  have exc := absent "exc_info" (by decide)
  rw [line, kept, addTrace, addTrace, stack, exc]
  rfl

theorem written_eq_ok_iff {threshold : Nat} {e : Entry} {log : Log} :
    e.written threshold = .ok log ↔
      (threshold ≤ e.level.weight → ∀ f ∈ e.line, f.2.jsonFault? = none) ∧
        (if threshold ≤ e.level.weight then [{ e with fields := e.line }] else []) = log := by
  rw [written]
  by_cases shown : threshold ≤ e.level.weight
  · rw [if_neg (Nat.not_lt.2 shown), if_pos shown]
    cases hf : e.line.findSome? fun f => f.2.jsonFault? with
    | none =>
      rw [List.findSome?_eq_none_iff] at hf
      simpa [shown] using fun _ => hf
    | some a =>
      obtain ⟨f, mem, hf⟩ := List.exists_of_findSome?_eq_some hf
      refine iff_of_false (fun h => by cases h) fun h => ?_
      rw [h.1 shown f mem] at hf
      cases hf
  · rw [if_pos (Nat.lt_of_not_le shown), if_neg shown]
    simp [shown]

end Log.Entry

namespace Value
variable {threshold : Nat}

/-- A value has a text, and JSON if the threshold lets failures into the log. -/
def Tells (threshold : Nat) (v : Value) : Prop :=
  (threshold ≤ 40 → v.jsonFault? = none) ∧ v.isWritable

@[simp] theorem tells_str (s : String) : (Value.str s).Tells threshold := ⟨fun _ => rfl, rfl⟩

theorem tells_int_iff {i : Int} : (Value.int i).Tells threshold ↔ (Value.int i).isWritable := by
  refine and_iff_right_of_imp fun writable _ => ?_
  rw [jsonFault?, if_pos writable]
  all_goals simp

end Value

namespace Command
variable {threshold : Nat} {options : Options} {f : Failure} {trace : Bool}

def Loggable (threshold : Nat) (options : Options) (f : Failure) : Prop :=
  options.logFailures = true → (∀ e ∈ f.details, e.1 ∉ Log.callNames ++ ownFields) ∧
    (threshold ≤ 40 → ∀ e ∈ (failureEntry f).line, e.2.jsonFault? = none)

theorem logged_eq_ok_iff {log : Log} : logged threshold options f = .ok log ↔
    Loggable threshold options f ∧
      (if options.logFailures && threshold ≤ 40 then
        [{ failureEntry f with fields := (failureEntry f).line }] else []) = log := by
  rw [logged, Loggable]
  cases logs : options.logFailures with
  | false => simp
  | true =>
    rw [if_pos rfl]
    cases hc : Log.clash? ownFields f.details with
    | none =>
      have free := Log.clash?_eq_none_iff.1 hc
      simp only [Bool.true_and, decide_eq_true_eq, Log.Entry.written_eq_ok_iff]
      exact and_congr_left' ⟨fun json _ => ⟨free, json⟩, fun h => (h trivial).2⟩
    | some a =>
      have taken : ¬ ∀ e ∈ f.details, e.1 ∉ Log.callNames ++ ownFields := by
        rw [← Log.clash?_eq_none_iff, hc]
        exact Option.some_ne_none a
      exact iff_of_false (fun h => by cases h) fun h => taken (h.1 rfl).1

theorem exists_logged_iff :
    (∃ log, logged threshold options f = .ok log) ↔ Loggable threshold options f := by
  simp [logged_eq_ok_iff]

theorem exists_exit_iff :
    (∃ code, (concludeAt threshold options (.failure f trace)).exit = .ok code) ↔
      Loggable threshold options f ∧ f.details.all (·.2.isWritable) := by
  rw [← exists_logged_iff, concludeAt]
  cases logged threshold options f with
  | error a => simp
  | ok log =>
    dsimp only
    split_ifs with writable <;> simp [writable]

theorem concludeAt_of_loggable (loggable : Loggable threshold options f)
    (writable : f.details.all (·.2.isWritable)) :
    concludeAt threshold options (.failure f trace) =
      ⟨.ok f.exitCode, told f, trace || options.showTrace,
        if options.logFailures && threshold ≤ 40 then
          [{ failureEntry f with fields := (failureEntry f).line }] else []⟩ := by
  have log := logged_eq_ok_iff.2 ⟨loggable, rfl⟩
  rw [concludeAt]
  simp only [log]
  rw [if_pos writable]

theorem concludeAt_of_exit {code : Int}
    (h : (concludeAt threshold options (.failure f trace)).exit = .ok code) :
    concludeAt threshold options (.failure f trace) =
      ⟨.ok f.exitCode, told f, trace || options.showTrace,
        if options.logFailures && threshold ≤ 40 then
          [{ failureEntry f with fields := (failureEntry f).line }] else []⟩ :=
  concludeAt_of_loggable (exists_exit_iff.1 ⟨code, h⟩).1 (exists_exit_iff.1 ⟨code, h⟩).2

theorem display_eq (f : Failure) : f.display = f.message ++
    if f.details.isEmpty then ""
    else " (" ++ String.intercalate ", " (f.details.map fun e => e.1 ++ "=" ++ e.2.text) ++ ")" := by
  rw [Failure.display]
  split_ifs
  · rw [String.append_empty]
  · rw [String.append_assoc, String.append_assoc]
    rfl

/-- A failure's entry is written as it is, if no detail has a name that lines have for themselves. -/
theorem line_failureEntry (plain : ∀ e ∈ f.details, e.1 ∉ Log.reservedNames) :
    (failureEntry f).line = (failureEntry f).fields := by
  refine Log.Entry.line_eq fun e he => ?_
  rcases List.mem_append.1 he with own | detail
  · simp only [List.mem_cons, List.not_mem_nil, or_false] at own
    rcases own with rfl | rfl | rfl <;> simp [Log.reservedNames]
  · exact plain e detail

/-- A failure gives an exit code exactly if all details can be written and, where it is logged, no
detail has a name that the call of the log has for itself and the line has JSON, as far as the
threshold lets it through. The code is then that of its kind, it is told with all of its details
and logged once, with all of its details unless they have a name that the line has for
itself, and all but the log is the same where nothing is logged. -/
theorem conclude_failure_settled (threshold : Nat) (options : Options) (f : Failure) (trace : Bool) :
    ((∃ code, (concludeAt threshold options (.failure f trace)).exit = .ok code) ↔
      (options.logFailures = true → (∀ e ∈ f.details,
          e.1 ∉ ["event", "method_name", "self", "error_type", "message", "exit_code"]) ∧
        (threshold ≤ 40 → ∀ e ∈ (failureEntry f).line, e.2.jsonFault? = none)) ∧
      f.details.all (·.2.isWritable)) ∧
    (∀ code, (concludeAt threshold options (.failure f trace)).exit = .ok code →
      code = f.kind.exitCode ∧
      (concludeAt threshold options (.failure f trace)).message = "Error: " ++ (f.message ++
        if f.details.isEmpty then ""
        else " (" ++ String.intercalate ", " (f.details.map fun e => e.1 ++ "=" ++ e.2.text) ++ ")") ++
          "\n" ∧
      (concludeAt threshold options (.failure f trace)).trace = (trace || options.showTrace) ∧
      (concludeAt threshold options (.failure f trace)).log =
        (if options.logFailures && threshold ≤ 40 then
          [⟨"command_error", .error, (failureEntry f).line⟩] else []) ∧
      concludeAt threshold ⟨options.showTrace, false⟩ (.failure f trace) =
        { concludeAt threshold options (.failure f trace) with log := [] }) ∧
    ((∀ e ∈ f.details, e.1 ∉ ["level", "timestamp", "stack_info", "exc_info"]) →
      (failureEntry f).line = [("error_type", .str f.kind.label), ("message", .str f.message),
        ("exit_code", .int f.kind.exitCode)] ++ f.details) := by
  refine ⟨exists_exit_iff, fun code h => ?_, line_failureEntry⟩
  have writable := (exists_exit_iff.1 ⟨code, h⟩).2
  have quiet : Loggable threshold ⟨options.showTrace, false⟩ f := fun logs => by cases logs
  have left := concludeAt_of_exit h
  rw [left] at h ⊢
  cases h
  refine ⟨rfl, ?_, rfl, rfl, ?_⟩
  · dsimp only
    rw [told, display_eq]
  · rw [concludeAt_of_loggable quiet writable]
    rfl

theorem conclude_failure_sample :
    (∀ e ∈ ([("rule", .int 2)] : Details), e.1 ∉ Log.callNames ++ ownFields) ∧
    (conclude ⟨false, true⟩ (.failure ⟨.template, "broken", [("rule", .int 2)]⟩ false)).exit =
      .ok 13 ∧
    (conclude ⟨false, true⟩ (.failure ⟨.template, "broken", [("rule", .int 2)]⟩ false)).message =
      "Error: broken (rule=2)\n" := by
  have clear : ∀ e ∈ ([("rule", .int 2)] : Details), e.1 ∉ Log.callNames ++ ownFields := by decide
  obtain ⟨returns, told, -⟩ :=
    conclude_failure_settled 0 ⟨false, true⟩ ⟨.template, "broken", [("rule", .int 2)]⟩ false
  obtain ⟨code, exit⟩ := returns.2 ⟨fun _ => ⟨clear, fun _ => by decide +kernel⟩, by decide +kernel⟩
  obtain ⟨rfl, message, -⟩ := told code exit
  refine ⟨clear, exit, message.trans ?_⟩
  decide +kernel

/-- A detail under the name that the log has for the message keeps the failure from being told; it
is told where it is not logged. -/
theorem exit_of_namedMessage :
    (conclude ⟨false, true⟩ (.failure ⟨.configuration, "boom", [("message", .str "boom")]⟩ false)) =
      ⟨.error .field, "", false, []⟩ ∧
    (conclude ⟨false, false⟩ (.failure ⟨.configuration, "boom", [("message", .str "boom")]⟩ false)) =
      ⟨.ok 10, "Error: boom (message=boom)\n", false, []⟩ :=
  ⟨rfl, rfl⟩

/-- The names of a failure's details are none that the log has for itself. -/
def IsFree (f : Failure) : Bool :=
  f.details.all fun e => !(Log.callNames ++ ownFields ++ Log.reservedNames).contains e.1

def Tellable (threshold : Nat) (f : Failure) : Prop := ∀ e ∈ f.details, e.2.Tells threshold

theorem tellable_iff : Tellable threshold f ↔
    (threshold ≤ 40 → ∀ e ∈ f.details, e.2.jsonFault? = none) ∧ f.details.all (·.2.isWritable) := by
  simp only [Tellable, Value.Tells, List.all_eq_true, forall_and]
  exact and_congr_left' ⟨fun h shown e he => h e he shown, fun h e he shown => h shown e he⟩

theorem not_mem_of_isFree (free : IsFree f) :
    ∀ e ∈ f.details, e.1 ∉ Log.callNames ++ ownFields ++ Log.reservedNames := by
  intro e he taken
  have := List.all_eq_true.1 free e he
  rw [List.contains_iff_mem.2 taken] at this
  cases this

theorem line_of_isFree (free : IsFree f) : (failureEntry f).line = (failureEntry f).fields :=
  line_failureEntry fun e he reserved => not_mem_of_isFree free e he (List.mem_append_right _ reserved)

theorem ownFields_json (f : Failure) : ∀ e ∈ ([("error_type", .str f.kind.label),
    ("message", .str f.message), ("exit_code", .int f.exitCode)] : Details),
    e.2.jsonFault? = none := by
  intro e he
  simp only [List.mem_cons, List.not_mem_nil, or_false] at he
  rcases he with rfl | rfl | rfl
  · rfl
  · rfl
  · cases h : f.kind <;> simp [Failure.exitCode, h] <;> decide +kernel

theorem exists_exit_iff_of_isFree (free : IsFree f) :
    (∃ code, (concludeAt threshold {} (.failure f trace)).exit = .ok code) ↔ Tellable threshold f := by
  have names : ∀ e ∈ f.details, e.1 ∉ Log.callNames ++ ownFields :=
    fun e he taken => not_mem_of_isFree free e he (List.mem_append_left _ taken)
  have line : (∀ e ∈ (failureEntry f).line, e.2.jsonFault? = none) ↔
      ∀ e ∈ f.details, e.2.jsonFault? = none := by
    rw [line_of_isFree free, failureEntry, List.forall_mem_append]
    exact and_iff_right (ownFields_json f)
  rw [exists_exit_iff, Loggable, line, tellable_iff]
  exact and_congr_left' ⟨fun h => (h rfl).2, fun h _ => ⟨names, h⟩⟩

/-- What is left of a failure that can be told. -/
theorem concludeAt_of_tellable (free : IsFree f) (tellable : Tellable threshold f) :
    concludeAt threshold {} (.failure f trace) =
      ⟨.ok f.exitCode, told f, trace, if threshold ≤ 40 then [failureEntry f] else []⟩ := by
  obtain ⟨code, exit⟩ := (exists_exit_iff_of_isFree free).2 tellable
  rw [concludeAt_of_exit exit, line_of_isFree free]
  simp

theorem exists_accident_of_not_tellable (free : IsFree f) (untold : ¬ Tellable threshold f) :
    ∃ a, (concludeAt threshold {} (.failure f trace)).exit = .error a := by
  cases h : (concludeAt threshold {} (.failure f trace)).exit with
  | error a => exact ⟨a, rfl⟩
  | ok code => exact absurd ((exists_exit_iff_of_isFree free).1 ⟨code, h⟩) untold

end Command
end MetricPaths
