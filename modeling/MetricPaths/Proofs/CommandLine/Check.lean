import MetricPaths.Proofs.Command.Markup
import MetricPaths.Proofs.CommandLine.Translate

/-! What `check-config` says of a rules file. A file that cannot be loaded is judged as `translate`
judges it, whatever else is given to that. One that is loaded is summed up in a line, with a row for
each of its rules; but its name goes into the line as markup, so that a tag in it is not shown as it
stands, and one that closes nothing keeps all of it from being shown. What a console draws beyond
the markup, such as pictures and the breaks of long lines, is left to the console. -/
namespace MetricPaths
namespace CommandLine
open Config

/-- There is a word between two colons in a text. -/
def hasCode : List Char → Bool
  | [] => false
  | ':' :: rest => (rest.takeWhile (· ≠ ' ')).contains ':' || hasCode rest
  | _ :: rest => hasCode rest

/-- A console has a column for each character and draws it as it is. -/
def isDrawn (text : String) : Bool :=
  text.toList.all (fun ch => (' ' ≤ ch && ch ≤ '~') || ch = '✓') && !hasCode text.toList

/-- What is known of a console of some width. It refuses markup for a tag that closes nothing, and
for no other reason where no tag stands for a handler. What the markup shows is left as it is if
every character of it is drawn as such and it fits into a line. -/
structure ShowsMarkup [Libraries] (width : Nat) : Prop where
  lost {s : String} : Markup.plain? s = none → Libraries.showLine s = none
  kept {s text : String} : Markup.plain? s = some text → ¬ Markup.HasHandler s.toList →
    ∃ line, Libraries.showLine s = some line
  drawn {s text : String} : Markup.plain? s = some text → ¬ Markup.HasHandler s.toList →
    isDrawn text → text.length ≤ width → Libraries.showLine s = some text

section
variable [Libraries]
variable {w : World} {settings : Settings} {threshold : Nat} {file shown : String} {c : Config}

def lineOn (file : String) (c : Config) : String :=
  "✓ " ++ file ++ ": " ++ Nat.repr c.rules.length ++ " rule(s), format " ++ c.layout.name

/-- A line, and behind it a table if there are rules, with a row for each of them in their order.
The first cell of a row is the index of the rule. -/
inductive Lists (line : String) : List Rule → List Shown → Prop
  | none : Lists line [] [.line line]
  | rows {rules : List Rule} {rows : List (List String)} : rules ≠ [] → rows.length = rules.length →
      (∀ i rule, rules[i]? = some rule → rows[i]? = some (row rule i)) →
      Lists line rules
        [.line line, .table none ["#", "match", "match_re", "template", "continue"] rows]

theorem lists_showConfig (line : String) (c : Config) :
    Lists line c.rules (.line line :: showConfig c) := by
  rw [showConfig]
  split_ifs with empty
  · rw [List.isEmpty_iff.1 empty]
    exact .none
  · refine .rows (by simpa using empty) (by simp) fun i rule h => ?_
    simp [h]

def restOn (c : Config) : String :=
  ": " ++ Nat.repr c.rules.length ++ " rule(s), format " ++ c.layout.name

theorem summary_eq (file : String) (c : Config) :
    summary file c = "[green]✓[/green] " ++ file ++ restOn c := by
  unfold summary restOn
  simp only [String.append_assoc]

theorem lineOn_eq (file : String) (c : Config) : lineOn file c = "✓ " ++ file ++ restOn c := by
  unfold lineOn restOn
  simp only [String.append_assoc]

theorem lineOn_inj {file' : String} : lineOn file c = lineOn file' c ↔ file = file' := by
  rw [lineOn_eq, lineOn_eq, ← String.toList_inj, ← String.toList_inj]
  simp only [String.toList_append, List.append_assoc, List.append_cancel_left_eq,
    List.append_cancel_right_eq]

theorem bracketless_restOn (c : Config) : ∀ ch ∈ (restOn c).toList, ch ≠ '[' ∧ ch ≠ ']' := by
  have digits : ∀ ch ∈ (Nat.repr c.rules.length).toList, ch ≠ '[' ∧ ch ≠ ']' := by
    intro ch hc
    rw [Nat.toList_repr] at hc
    have digit := Nat.isDigit_of_mem_toDigits (by decide) (by decide) hc
    constructor <;> rintro rfl <;> revert digit <;> decide
  have name : ∀ ch ∈ c.layout.name.toList, ch ≠ '[' ∧ ch ≠ ']' := by
    cases c.layout <;> simp [Layout.name]
  simp only [restOn, String.toList_append, List.forall_mem_append]
  exact ⟨⟨⟨by simp, digits⟩, by simp⟩, name⟩

/-- Within the line a name is shown as it is by itself. -/
theorem plain?_summary (file : String) (c : Config) :
    Markup.plain? (summary file c) = (Markup.plain? file).map (lineOn · c) := by
  rw [summary_eq, Markup.plain?_ticked (bracketless_restOn c)]
  simp only [lineOn_eq]

theorem work_check (hs : Libraries.readSettings w.environment w.files = .ok settings)
    (h : (load w.files (some file) settings).1 = .ok c) :
    Request.work w (.check file) =
      match Libraries.showLine (summary file c) with
      | none => ⟨[], (load w.files (some file) settings).2, .unexpected "MarkupError" ""⟩
      | some line => .done (load w.files (some file) settings).2 (.line line :: showConfig c) := by
  rcases hl : load w.files (some file) settings with ⟨result, log⟩
  obtain rfl : result = .ok c := by rwa [hl] at h
  cases hline : Libraries.showLine (summary file c) with
  | none => simp only [Request.work, check, hs, hl, hline]
  | some line => simp only [Request.work, check, hs, hl, hline]

theorem perform_check_of_none (threshold : Nat)
    (hs : Libraries.readSettings w.environment w.files = .ok settings)
    (h : (load w.files (some file) settings).1 = .ok c)
    (lost : Libraries.showLine (summary file c) = none) :
    (perform w threshold (.check file)).exit = .ok 127 ∧
      (perform w threshold (.check file)).message = "" ∧
      (perform w threshold (.check file)).shown = [] := by
  rw [perform_eq, work_check hs h, lost]
  exact ⟨rfl, rfl, rfl⟩

theorem perform_check_of_some (threshold : Nat)
    (hs : Libraries.readSettings w.environment w.files = .ok settings)
    (h : (load w.files (some file) settings).1 = .ok c) {line : String}
    (shows : Libraries.showLine (summary file c) = some line) :
    (perform w threshold (.check file)).exit = .ok 0 ∧
      (perform w threshold (.check file)).shown = .line line :: showConfig c := by
  rw [perform_eq, work_check hs h, shows]
  exact ⟨rfl, rfl⟩

theorem hasHandler_of_summary (h : Markup.HasHandler (summary file c).toList) :
    Markup.HasHandler file.toList := by
  rw [summary_eq, String.toList_append, String.toList_append] at h
  have named := h.of_append_right (bracketless_restOn c)
  simpa [Markup.hasHandler_cons_iff] using named

/-- The threshold decides on the log, and beyond that only on what cannot be told. -/
theorem perform_of_failed {request request' : Request} {log : Log} {p : Problem} (free : p.IsFree)
    (work : request.work w = .failed log p) (work' : request'.work w = .failed log p)
    {t t' : Nat} (h : t = t' ∨ p.Tellable 0) :
    (perform w t request).exit = (perform w t' request').exit ∧
      (perform w t request).message = (perform w t' request').message := by
  rw [perform_eq, perform_eq, work, work']
  rcases h with rfl | tellable
  · exact ⟨rfl, rfl⟩
  · obtain ⟨exit, message⟩ := Command.concludeAt_ofProblem free (tellable.mono (Nat.zero_le t))
    obtain ⟨exit', message'⟩ := Command.concludeAt_ofProblem free (tellable.mono (Nat.zero_le t'))
    exact ⟨exit.trans exit'.symm, message.trans message'.symm⟩

theorem isFree_of_load {path : Option String} {p : Problem}
    (h : (load w.files path settings).1 = .error p) : p.IsFree := by
  cases p with
  | failure f => exact (isConfiguration_of_load h).2
  | accident a => exact trivial

theorem perform_of_load_error (threshold : Nat) {request : Request} {path : Option String}
    {p : Problem} (loads : request.Loads path)
    (hs : Libraries.readSettings w.environment w.files = .ok settings)
    (h : (load w.files path settings).1 = .error p) :
    (perform w threshold request).exit ≠ .ok 0 ∧ (perform w threshold request).shown = [] := by
  have free := isFree_of_load h
  have code : p.exitCode ≠ 0 := by
    cases p with
    | failure f =>
      rw [Problem.exitCode, Failure.exitCode]
      cases f.kind <;> decide
    | accident a => exact Nat.succ_ne_zero _
  rw [perform_eq, loads.work_eq hs h, Work.failed]
  refine ⟨fun done => ?_, rfl⟩
  by_cases tellable : p.Tellable threshold
  · obtain ⟨exit, -⟩ := Command.concludeAt_ofProblem free tellable
    exact code (Int.ofNat_eq_zero.1 (Except.ok.inj (exit.symm.trans done)))
  · obtain ⟨a, accident⟩ := Command.exists_accident_ofProblem free tellable
    cases accident.symm.trans done

end

theorem showsMarkup_own (width : Nat) : ShowsMarkup width :=
  ⟨fun lost => lost, fun kept _ => ⟨_, kept⟩, fun kept _ _ _ => kept⟩

def soleRuleWorld : World :=
  ⟨[], [("r.yaml", .bytes (Utf8.encode "write:\n  rules:\n  - template: up\n".toList))]⟩

def taggedWorld : World := ⟨[], [("[green].yaml", .bytes []), ("[/a].yaml", .bytes [])]⟩

end CommandLine
end MetricPaths
