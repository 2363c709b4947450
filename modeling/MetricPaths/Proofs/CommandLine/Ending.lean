import MetricPaths.Proofs.CommandLine.Check
import MetricPaths.Proofs.LabelPath.Grammar

/-! How a command ends. It gives one of few exit codes, and a failure is told and logged once,
unless something in it cannot be told: then the command ends in an accident. That is a label in a
rules file, or else a file or a path is longer than any that can be given. -/
namespace MetricPaths
open Value (digitLimit)

namespace Segment

def Fault.position? : Fault → Option Nat
  | .malformedPercent position => some position
  | .danglingBackslash position => some position
  | .notText _ => none

theorem position_lt_of_tokens {start position : Nat} {s : List Char} {fault : Fault}
    (h : tokens start s = .error fault) (hp : fault.position? = some position) :
    position < start + s.length := by
  induction start, s using tokens.induct with
  | case1 => cases h
  | case2 start high low after value value' hl hh ih =>
    simp only [tokens, hh, hl, map_eq_error_iff] at h
    have later := ih h
    simp only [List.length_cons]
    omega
  | case3 start high low after none =>
    have here : tokens start ('%' :: high :: low :: after) = .error (.malformedPercent start) := by
      rw [tokens]
      split
      · next hh hl => exact (none _ _ hh hl).elim
      · rfl
    cases here.symm.trans h
    cases hp
    simp
  | case4 start rest short =>
    have here : tokens start ('%' :: rest) = .error (.malformedPercent start) := by
      rw [tokens]
      exact short
    cases here.symm.trans h
    cases hp
    simp
  | case5 start c after ih =>
    simp only [tokens, map_eq_error_iff] at h
    have later := ih h
    simp only [List.length_cons]
    omega
  | case6 start =>
    cases h
    cases hp
    simp
  | case7 start c rest notPercent notSlash ih =>
    rw [tokens, map_eq_error_iff] at h
    · have later := ih h
      simp only [List.length_cons]
      omega
    · exact notPercent
    · exact notSlash

theorem position_lt_of_unescape {position : Nat} {segment : List Char} {fault : Fault}
    (h : unescape segment = .error fault) (hp : fault.position? = some position) :
    position < segment.length := by
  rw [unescape] at h
  cases ht : tokens 0 segment with
  | error other =>
    rw [ht] at h
    cases h
    simpa using position_lt_of_tokens ht hp
  | ok ts =>
    rw [ht] at h
    dsimp only at h
    split at h
    · cases h
    · cases h
      cases hp

end Segment

namespace LabelPath

def Fault.number? : Fault → Option Nat
  | .oddSegments _ count => some count
  | .segment _ fault => fault.position?
  | _ => none

theorem Fault.tellable {fault : Fault} (threshold : Nat)
    (h : ∀ n, fault.number? = some n → n < Nat.pow 10 digitLimit) :
    Command.Tellable threshold fault.failure := by
  have told (n : Nat) (hn : fault.number? = some n) : (Value.int n).Tells threshold :=
    Value.tells_int_iff.2 (Value.isWritable_natCast.2 (h n hn))
  cases fault with
  | oddSegments path count =>
    have := told count rfl
    simp [Command.Tellable, failure, this]
  | segment piece cause =>
    cases cause with
    | malformedPercent position =>
      have := told position rfl
      simp [Command.Tellable, failure, this]
    | danglingBackslash position =>
      have := told position rfl
      simp [Command.Tellable, failure, this]
    | notText fault => simp [Command.Tellable, failure]
  | lead | noName | duplicate => simp [Command.Tellable, failure]

theorem Fault.isFree (fault : Fault) : Command.IsFree fault.failure := by
  cases fault with
  | segment piece cause => cases cause <;> exact rfl
  | lead | noName | oddSegments | duplicate => exact rfl

theorem length_le_flatMap_dots (others : List (List Char)) :
    others.length ≤ (others.flatMap ('.' :: ·)).length := by
  induction others with
  | nil => exact Nat.le_refl 0
  | cons piece rest ih =>
    rw [List.flatMap_cons, List.length_append, List.length_cons, List.length_cons]
    omega

theorem length_le_flatMap_dots_of_mem {piece : List Char} {others : List (List Char)}
    (h : piece ∈ others) : piece.length ≤ (others.flatMap ('.' :: ·)).length := by
  induction h with
  | head rest => simp only [List.flatMap_cons, List.length_append, List.length_cons]; omega
  | tail other _ ih => simp only [List.flatMap_cons, List.length_append, List.length_cons]; omega

theorem Pieces.length_le {path lead : String} {k : Nat} {name : List Char}
    {others : List (List Char)} (h : Pieces path lead k name others) :
    name.length + (others.flatMap ('.' :: ·)).length ≤ path.toList.length := by
  rw [h.path_eq]
  simp only [String.toList_append, String.toList_ofList, List.length_append]
  omega

theorem StopsAt.unescape_eq {bad : List Char} {cause : Segment.Fault} {segments : List (List Char)}
    (h : StopsAt bad cause segments) : bad ∈ segments ∧ Segment.unescape bad = .error cause := by
  induction h with
  | here hb => exact ⟨List.mem_cons_self, hb⟩
  | later _ _ ih => exact ⟨List.mem_cons_of_mem _ ih.1, ih.2⟩

/-- No number in a fault is larger than the path is long. -/
theorem number_le_of_labels {path lead : String} {fault : Fault} {n : Nat}
    (h : labels path lead = .error fault) (hn : fault.number? = some n) :
    n ≤ path.toList.length := by
  cases refused_of_labels h with
  | lead => cases hn
  | noName => cases hn
  | @oddSegments k name others hp =>
    cases hn
    have := length_le_flatMap_dots others
    have := hp.length_le
    omega
  | @segment k name bad tags cause hs stops =>
    obtain ⟨mem, hb⟩ := stops.unescape_eq
    have inside := Segment.position_lt_of_unescape hb hn
    have whole := (splits_iff_pieces.1 hs).length_le
    rcases List.mem_cons.1 mem with rfl | mem
    · omega
    · obtain ⟨t, ht, rfl⟩ := List.mem_map.1 mem
      have piece : t.2 ∈ tags.flatMap pieces := List.mem_flatMap.2 ⟨t, ht, by simp [pieces]⟩
      have := length_le_flatMap_dots_of_mem piece
      omega

end LabelPath

namespace Rule

theorem StopsAt.index_lt [Libraries] {table : List Value} {index : Nat} {fault : Fault}
    (h : StopsAt table index fault) : index < table.length := by
  induction h with
  | here _ => exact Nat.zero_lt_succ _
  | later _ _ ih => exact Nat.succ_lt_succ ih

/-- A rule's failure can be told but for its index and a label that is no text. -/
theorem Fault.tellable_iff {fault : Fault} {index threshold : Nat} {f : Failure}
    (small : index < Nat.pow 10 digitLimit) (h : fault.problem index = .failure f) :
    Command.Tellable threshold f ↔
      ∀ field label, fault = .predicateNotText field label → label.Tells threshold := by
  have number : (Value.int index).Tells threshold :=
    Value.tells_int_iff.2 (Value.isWritable_natCast.2 small)
  cases fault with
  | unwritableField => cases h
  | pattern label source refusal =>
    cases refusal <;> cases h
    simp [Command.Tellable, number]
  | template source refusal =>
    cases refusal <;> cases h
    simp [Command.Tellable, number]
  | predicateNotText field label =>
    cases h
    simp [Command.Tellable, number]
  | _ =>
    cases h
    simp [Command.Tellable, number]

end Rule

namespace Config
variable [Libraries]

theorem documentFor_eq_failure {files : Files} {path : Option String} {settings : Settings}
    {f : Failure} (h : documentFor files path settings = .error (.failure f)) :
    ∃ file, f = notFound file ∨ f = invalidDocument file := by
  rw [documentFor] at h
  split at h
  · cases h
  · next file _ =>
    rw [readFile] at h
    split at h
    · cases h
    · cases h
      exact ⟨file, .inl rfl⟩
    · next content _ =>
      cases content with
      | directory => cases h
      | bytes data =>
        rw [documentOf] at h
        split at h
        · cases h
        · cases h
          exact ⟨file, .inr rfl⟩
        · cases h

def HasTable (files : Files) (path : Option String) (settings : Settings) (table : List Value) :
    Prop :=
  ∃ document root write, documentFor files path settings = .ok document ∧
    mappingOr "Configuration root must be a mapping" document = .ok root ∧
    mappingOr "write section must be a mapping" (Rule.field "write" root) = .ok write ∧
    listOr "write.rules must be a list" (Rule.field "rules" write) = .ok table

theorem Blames.hasTable {files : Files} {path : Option String} {settings : Settings}
    {table : List Value} {index : Nat} {fault : Rule.Fault}
    (h : Blames files path settings table index fault) : HasTable files path settings table := by
  obtain ⟨document, root, layout, hd, ⟨write, data, lead, hroot, hwrite, -, htable, -⟩, -, -⟩ :=
    h.exists_document
  exact ⟨document, root, write, hd, hroot, hwrite, htable⟩

theorem exists_table_of_load {files : Files} {path : Option String} {settings : Settings}
    {c : Config} (h : (load files path settings).1 = .ok c) :
    ∃ table, HasTable files path settings table ∧ table.length = c.rules.length := by
  rw [load_fst, bind_eq_ok_iff] at h
  obtain ⟨document, hd, h⟩ := h
  obtain ⟨root, write, _, table, _, hroot, hwrite, -, htable, -, -, -, hrules, -⟩ :=
    ofValue_eq_ok_iff.1 h
  exact ⟨table, ⟨document, root, write, hd, hroot, hwrite, htable⟩,
    (Rule.parseAll_eq_ok_iff.1 hrules).length_eq⟩

/-- A failure to load a configuration can be told, unless it is that of a rule. -/
theorem tellable_or_blames {files : Files} {path : Option String} {settings : Settings}
    {f : Failure} (h : (load files path settings).1 = .error (.failure f)) :
    (∀ threshold, Command.Tellable threshold f) ∨ ∃ table index fault,
      Blames files path settings table index fault ∧ fault.problem index = .failure f := by
  rw [load_fst, bind_eq_error_iff] at h
  rcases h with h | ⟨document, hd, h⟩
  · obtain ⟨file, rfl | rfl⟩ := documentFor_eq_failure h
    · exact .inl fun threshold => by simp [Command.Tellable, notFound]
    · exact .inl fun threshold => by simp [Command.Tellable, invalidDocument]
  · obtain ⟨message, h⟩ | ⟨name, h⟩ | ⟨root, table, sections, ⟨-, h⟩ | ⟨writable, ⟨layout, hl⟩, h⟩⟩ :=
      ofValue_eq_error h
    · cases h
      exact .inl fun threshold => by simp [Command.Tellable]
    · cases h
      exact .inl fun threshold => by simp [Command.Tellable, unknownFormat]
    · cases h
    · obtain ⟨index, fault, stops, h⟩ := Rule.parseAll_eq_error_iff.1 h
      rw [Nat.zero_add] at h
      exact .inr ⟨table, index, fault, ⟨⟨_, _, _, hd, sections, writable, hl⟩, stops⟩, h⟩

end Config

namespace CommandLine
open Config

def Request.codes : Request → List Int
  | .translate _ => [0, 10, 12, 13, 127]
  | .parse _ => [0, 14]
  | .check _ => [0, 10, 127]

def failures (log : Log) : Log := log.filter (·.event = "command_error")

theorem failures_atLeast {log : Log} (quiet : IsQuiet log) (f : Failure) (threshold : Nat) :
    failures (Log.atLeast threshold
        (log ++ if threshold ≤ 40 then [Command.failureEntry f] else [])) =
      if threshold ≤ 40 then [Command.failureEntry f] else [] := by
  have before : failures (Log.atLeast threshold log) = [] := by
    simp only [failures, Log.atLeast, List.filter_eq_nil_iff, List.mem_filter, decide_eq_true_iff]
    exact fun e he => quiet e he.1
  have last : failures (Log.atLeast threshold
        (if threshold ≤ 40 then [Command.failureEntry f] else [])) =
      if threshold ≤ 40 then [Command.failureEntry f] else [] := by
    by_cases shown : threshold ≤ 40
    · simp [failures, Log.atLeast, Command.failureEntry, Log.Level.weight, shown]
    · simp [failures, Log.atLeast, shown]
  rw [Log.atLeast, List.filter_append, failures, List.filter_append]
  exact (congrArg₂ (· ++ ·) before last)

section
variable [Libraries]
variable {w : World} {settings : Settings}

/-- The failures that a command meets. -/
inductive Request.Meets (w : World) (settings : Settings) : Request → Failure → Prop
  | translate {a : Translate} {f : Failure} {code : Nat} :
      a.FailsAt w.files settings (.failure f) code → Meets w settings (.translate a) f
  | check {file : String} {f : Failure} :
      (load w.files (some file) settings).1 = .error (.failure f) →
      Meets w settings (.check file) f
  | parse {a : Parse} {lead : String} {fault : LabelPath.Fault} :
      LabelPath.labels a.path lead = .error fault → Meets w settings (.parse a) fault.failure

/-- A command is done, or it meets a failure, or something unexpected; nothing is shown then. -/
theorem Request.work_cases (hs : Libraries.readSettings w.environment w.files = .ok settings)
    (request : Request) : ∃ log, IsQuiet log ∧
      ((∃ shown, request.work w = .done log shown) ∨
        (∃ f, request.Meets w settings f ∧ request.work w = .failed log (.failure f)) ∨
        ∃ kind message, 127 ∈ request.codes ∧
          request.work w = ⟨[], log, .unexpected kind message⟩) := by
  cases request with
  | translate a =>
    obtain ⟨log, quiet, work⟩ := translate_eq hs a
    refine ⟨log, quiet, ?_⟩
    rw [Request.work, work]
    cases hp : a.paths w.files settings with
    | ok found => exact .inl ⟨_, rfl⟩
    | error p =>
      obtain ⟨code, failsAt⟩ := Translate.paths_eq_error_iff.1 hp
      cases p with
      | failure f => exact .inr (.inl ⟨f, .translate failsAt, rfl⟩)
      | accident accident => exact .inr (.inr ⟨_, _, by simp [codes], rfl⟩)
  | parse a =>
    have lead : ∃ lead, leadFor w a.lead = .ok lead := by
      cases a.lead with
      | none => exact ⟨settings.lead, by rw [leadFor, hs]; rfl⟩
      | some lead => exact ⟨lead, rfl⟩
    obtain ⟨lead, hlead⟩ := lead
    refine ⟨[], List.forall_mem_nil _, ?_⟩
    cases hl : LabelPath.labels a.path lead with
    | ok found => exact .inl ⟨_, work_parse_of_ok hlead hl⟩
    | error fault => exact .inr (.inl ⟨_, .parse hl, work_parse_of_error hlead hl⟩)
  | check file =>
    refine ⟨_, isQuiet_load w.files (some file) settings, ?_⟩
    cases hl : (load w.files (some file) settings).1 with
    | error p =>
      rw [(Request.Loads.check file).work_eq hs hl]
      cases p with
      | failure f => exact .inr (.inl ⟨f, .check hl, rfl⟩)
      | accident accident => exact .inr (.inr ⟨_, _, by simp [codes], rfl⟩)
    | ok c =>
      rw [work_check hs hl]
      cases Libraries.showLine (summary file c) with
      | none => exact .inr (.inr ⟨_, _, by simp [codes], rfl⟩)
      | some line => exact .inl ⟨_, rfl⟩

namespace Request
variable {request : Request} {f : Failure} {threshold : Nat}

theorem Meets.exitCode_mem (h : request.Meets w settings f) : (f.exitCode : Int) ∈ request.codes := by
  cases h with
  | translate failsAt =>
    have code := failsAt.exitCode_eq
    rw [Problem.exitCode] at code
    rw [code]
    cases failsAt <;> simp [codes]
  | check h =>
    rw [Failure.exitCode, (isConfiguration_of_load h).1]
    simp [codes, FailureKind.exitCode]
  | parse h =>
    rw [Failure.exitCode, LabelPath.Fault.kind_failure]
    simp [codes, FailureKind.exitCode]

theorem Meets.isFree (h : request.Meets w settings f) : Command.IsFree f := by
  cases h with
  | translate failsAt => exact failsAt.isFree
  | check h => exact (isConfiguration_of_load h).2
  | @parse _ _ fault => exact fault.isFree

/-- A rule has a predicate for a label that is no text and that cannot be told, such as a number
that is too long. -/
def BlamesUntold (threshold : Nat) (w : World) (settings : Settings) (request : Request) : Prop :=
  ∃ path table index field label, request.Loads path ∧
    Blames w.files path settings table index (.predicateNotText field label) ∧
    ¬ label.Tells threshold

/-- The rules or the characters are as many as no number can be told. -/
inductive IsHuge (w : World) (settings : Settings) : Request → Prop
  | table {request : Request} {path : Option String} {table : List Value} :
      request.Loads path → HasTable w.files path settings table →
      Nat.pow 10 digitLimit ≤ table.length → IsHuge w settings request
  | path {a : Parse} : Nat.pow 10 digitLimit ≤ a.path.toList.length → IsHuge w settings (.parse a)

theorem Loads.untold_or_huge {path : Option String} (loads : request.Loads path)
    (h : (load w.files path settings).1 = .error (.failure f))
    (untold : ¬ Command.Tellable threshold f) :
    request.BlamesUntold threshold w settings ∨ request.IsHuge w settings := by
  obtain told | ⟨table, index, fault, blames, hf⟩ := tellable_or_blames h
  · exact absurd (told threshold) untold
  · by_cases small : index < Nat.pow 10 digitLimit
    · left
      rw [Rule.Fault.tellable_iff small hf] at untold
      push Not at untold
      obtain ⟨field, label, rfl, mute⟩ := untold
      exact ⟨path, table, index, field, label, loads, blames, mute⟩
    · right
      have inside := blames.stopsAt.index_lt
      exact .table loads blames.hasTable (by omega)

/-- A failure that cannot be told is that of a label in a rules file, or what is given is too
large for anything. -/
theorem Meets.untold_or_huge (h : request.Meets w settings f)
    (untold : ¬ Command.Tellable threshold f) :
    request.BlamesUntold threshold w settings ∨ request.IsHuge w settings := by
  cases h with
  | @translate a f code failsAt =>
    cases failsAt with
    | load h => exact (Loads.translate a).untold_or_huge h untold
    | format => exact absurd (by simp [Command.Tellable, unknownFormat]) untold
    | @labels _ _ fault =>
      refine absurd ?_ untold
      cases fault <;> simp [Command.Tellable, Metric.ItemFault.failure]
    | paths hc _ hm hp hf =>
      obtain ⟨index, source, message, mem, rfl⟩ := Translate.exists_of_paths_failure hm hp hf
      obtain ⟨rule, hr, -, -⟩ := Translator.mem_templates mem
      obtain ⟨inside, -⟩ := List.getElem?_eq_some_iff.1 hr
      obtain ⟨table, has, length⟩ := exists_table_of_load hc
      refine .inr (.table (.translate a) has ?_)
      have large : ¬ index < Nat.pow 10 digitLimit := by
        intro small
        have number : (Value.int index).Tells threshold :=
          Value.tells_int_iff.2 (Value.isWritable_natCast.2 small)
        exact untold (by simp [Command.Tellable, number])
      change index < List.length _ at inside
      rw [length]
      exact Nat.le_trans (Nat.not_lt.1 large) (Nat.le_of_lt inside)
  | @check file _ h => exact (Loads.check file).untold_or_huge h untold
  | parse h =>
    refine .inr (.path ?_)
    by_contra small
    refine untold (LabelPath.Fault.tellable threshold fun n hn => ?_)
    exact Nat.lt_of_le_of_lt (LabelPath.number_le_of_labels h hn) (Nat.not_le.1 small)

theorem meets_of_ending (hs : Libraries.readSettings w.environment w.files = .ok settings) {trace : Bool}
    (h : (request.work w).ending = .failure f trace) :
    trace = false ∧ request.Meets w settings f ∧ (request.work w).shown = [] ∧
      IsQuiet (request.work w).log := by
  obtain ⟨log, quiet, ⟨shown, work⟩ | ⟨f', meets, work⟩ | ⟨kind, message, -, work⟩⟩ :=
    request.work_cases hs
  · rw [work] at h
    cases h
  · rw [work] at h ⊢
    cases h
    exact ⟨rfl, meets, rfl, quiet⟩
  · rw [work] at h
    cases h

theorem ending_cases (hs : Libraries.readSettings w.environment w.files = .ok settings)
    (request : Request) (threshold : Nat) :
    (∃ f, (request.work w).ending = .failure f false) ∨
      (∀ f trace, (request.work w).ending ≠ .failure f trace) ∧
        ∃ code ∈ request.codes,
          (Command.concludeAt threshold {} (request.work w).ending).exit = .ok code := by
  obtain ⟨log, -, ⟨shown, work⟩ | ⟨f', -, work⟩ | ⟨kind, message, unknown, work⟩⟩ :=
    request.work_cases hs
  · rw [work]
    refine .inr ⟨fun f trace => by simp [Work.done], 0, ?_, rfl⟩
    cases request <;> simp [codes]
  · rw [work]
    exact .inl ⟨f', rfl⟩
  · rw [work]
    exact .inr ⟨fun f trace => by simp, 127, unknown, rfl⟩

theorem BlamesUntold.exists_ending (hs : Libraries.readSettings w.environment w.files = .ok settings)
    (h : request.BlamesUntold threshold w settings) :
    ∃ f, (request.work w).ending = .failure f false ∧ ¬ Command.Tellable threshold f := by
  obtain ⟨path, table, index, field, label, loads, blames, untold⟩ := h
  refine ⟨_, loads.ending_work hs blames.load_eq, ?_⟩
  simp [Command.Tellable, untold]

end Request

section
variable {request : Request} {threshold : Nat}

theorem mem_codes_of_exit (hs : Libraries.readSettings w.environment w.files = .ok settings)
    {code : Int} (h : (perform w threshold request).exit = .ok code) : code ∈ request.codes := by
  rw [exit_perform] at h
  obtain ⟨f, ending⟩ | ⟨-, code', mem, exit⟩ := request.ending_cases hs threshold
  · obtain ⟨-, meets, -⟩ := Request.meets_of_ending hs ending
    rw [ending] at h
    have tellable := (Command.exists_exit_iff_of_isFree meets.isFree).1 ⟨code, h⟩
    rw [Command.concludeAt_of_tellable meets.isFree tellable] at h
    cases h
    exact meets.exitCode_mem
  · cases exit.symm.trans h
    exact mem

theorem exists_accident_iff (hs : Libraries.readSettings w.environment w.files = .ok settings) :
    (∃ accident, (perform w threshold request).exit = .error accident) ↔
      ∃ f, (request.work w).ending = .failure f false ∧ ¬ Command.Tellable threshold f := by
  rw [exit_perform]
  constructor
  · rintro ⟨accident, h⟩
    obtain ⟨f, ending⟩ | ⟨-, code, -, exit⟩ := request.ending_cases hs threshold
    · obtain ⟨-, meets, -⟩ := Request.meets_of_ending hs ending
      refine ⟨f, ending, fun tellable => ?_⟩
      rw [ending, Command.concludeAt_of_tellable meets.isFree tellable] at h
      cases h
    · cases exit.symm.trans h
  · rintro ⟨f, ending, untold⟩
    obtain ⟨-, meets, -⟩ := Request.meets_of_ending hs ending
    rw [ending]
    exact Command.exists_accident_of_not_tellable meets.isFree untold

theorem perform_of_failure (hs : Libraries.readSettings w.environment w.files = .ok settings)
    {f : Failure} {trace : Bool} (h : (request.work w).ending = .failure f trace)
    (tellable : Command.Tellable threshold f) :
    (perform w threshold request).exit = .ok f.exitCode ∧
      (perform w threshold request).message = Command.told f ∧
      failures (perform w threshold request).log =
        if threshold ≤ 40 then [Command.failureEntry f] else [] := by
  obtain ⟨rfl, meets, -, quiet⟩ := Request.meets_of_ending hs h
  rw [perform_eq, h, Command.concludeAt_of_tellable meets.isFree tellable]
  exact ⟨rfl, rfl, failures_atLeast quiet f threshold⟩

end

end

end CommandLine
end MetricPaths
