import MetricPaths.Session
import MetricPaths.Proofs.Config
import MetricPaths.Proofs.Frozen

/-! Configurations come back from their own documents. Whatever was loaded and adjusted in a
session, the configuration at its end is written out as a document that gives it again, and
the settings have no say in that. -/
namespace MetricPaths
namespace Config

@[simp] theorem mappingOr_map (message : String) (entries : List (Value × Value)) :
    mappingOr message (.map entries) = .ok entries := by
  cases entries <;> rfl

@[simp] theorem listOr_list (message : String) (items : List Value) :
    listOr message (.list items) = .ok items := by
  cases items <;> rfl

@[simp] theorem parseFormat_name (layout : Layout) : parseFormat layout.name = .ok layout := by
  rw [parseFormat, Layout.ofName?_name]

theorem eq_of_mappingOr {message : String} {v : Value} {entries : List (Value × Value)}
    (h : mappingOr message v = .ok entries) : entries = v.entries?.getD [] := by
  rw [mappingOr] at h
  split_ifs at h with falsy
  · cases h
    cases v with
    | map entries | view entries => exact (List.isEmpty_iff.1 falsy).symm
    | _ => rfl
  · cases hv : v.entries? with
    | none => rw [hv] at h; cases h
    | some found => rw [hv] at h; cases h; rfl

def dataOf (document : Value) : Value :=
  Rule.field "template_data" ((Rule.field "write" (document.entries?.getD [])).entries?.getD [])

theorem entriesAreTupleFree_of_isTupleFree {v : Value} (h : v.isTupleFree) :
    Value.entriesAreTupleFree (v.entries?.getD []) := by
  cases v with
  | map entries | view entries => exact h
  | _ => rfl

variable [Libraries]

/-- What a configuration needs in order to come back from its own document. -/
structure Reloadable (c : Config) : Prop where
  checked : ∀ rule ∈ c.rules, rule.Checked
  frozen : ∃ entries, Value.entriesAreTupleFree entries ∧ c.data = Value.freeze (.map entries)

theorem Reloadable.standard : standard.Reloadable :=
  ⟨by simp [Config.standard], [], rfl, rfl⟩

theorem Reloadable.of_ofValue {document : Value} {settings : Settings} {c : Config}
    (h : ofValue document settings = .ok c) (free : (dataOf document).isTupleFree) :
    c.Reloadable := by
  refine ⟨checked_of_ofValue h, ?_⟩
  obtain ⟨root, write, data, _, _, hroot, hwrite, hdata, -, -, -, -, -, hfrozen⟩ :=
    ofValue_eq_ok_iff.1 h
  refine ⟨data, ?_, hfrozen⟩
  rw [eq_of_mappingOr hdata, eq_of_mappingOr hwrite, eq_of_mappingOr hroot]
  exact entriesAreTupleFree_of_isTupleFree free

/-- The document of a configuration gives it again, whatever the settings are. -/
theorem Reloadable.ofValue_toValue {c : Config} (h : c.Reloadable) (settings : Settings) :
    ofValue c.toValue settings = .ok c := by
  obtain ⟨entries, free, hdata⟩ := h.frozen
  have thawed : c.data.thaw = .map (Value.thawEntries (Value.freezeEntries entries)) := by
    rw [hdata, Value.freeze, Value.thaw]
  have refrozen := Value.freezeEntries_thawEntries_freezeEntries entries free
  rw [ofValue_eq_ok_iff]
  refine ⟨_, [(.str "template_data", c.data.thaw), (.str "rules", .list (c.rules.map Rule.toValue))],
    Value.thawEntries (Value.freezeEntries entries), c.rules.map Rule.toValue, c.layout.name,
    mappingOr_map _ _, ?_, ?_, ?_, ?_, ?_, parseFormat_name _, Rule.parseAll_toValue h.checked 0, ?_⟩
  · simp [Rule.field]
  · simp [Rule.field, thawed]
  · simp [Rule.field]
  · simp [textOr]
  · simp [writtenText, Value.text]
  · rw [Value.freeze, refrozen, hdata, Value.freeze]

end Config

namespace Session
open Config

section
variable [Libraries]

def Change.document? : Change → Option Value
  | .document v _ => some v
  | .load files path settings => (documentFor files path settings).toOption
  | .reload _ | .adjust _ _ => none

def Change.isTupleFree (change : Change) : Bool :=
  change.document?.all fun v => (dataOf v).isTupleFree

theorem Change.reloadable_of_apply {change : Change} {c c' : Config} (h : c.Reloadable)
    (free : change.isTupleFree) (ha : change.apply c = .ok c') : c'.Reloadable := by
  cases change with
  | document v settings => exact .of_ofValue ha free
  | load files path settings =>
    rw [Change.apply, load_fst, bind_eq_ok_iff] at ha
    obtain ⟨v, hv, hc⟩ := ha
    refine .of_ofValue hc ?_
    simpa [Change.isTupleFree, Change.document?, hv, Except.toOption] using free
  | reload settings =>
    rw [Change.apply, h.ofValue_toValue] at ha
    cases ha
    exact h
  | adjust lead format =>
    cases format with
    | none =>
      cases ha
      exact ⟨h.checked, h.frozen⟩
    | some name =>
      simp only [Change.apply, bind_eq_ok_iff, pure_eq_ok_iff] at ha
      obtain ⟨layout, -, rfl⟩ := ha
      exact ⟨h.checked, h.frozen⟩

/-- Nothing that changes, and no change that fails, keeps a configuration from coming back. -/
theorem reloadable_after {c : Config} {changes : List Change} (h : c.Reloadable)
    (free : ∀ change ∈ changes, change.isTupleFree) : (after c changes).Reloadable := by
  induction changes generalizing c with
  | nil => exact h
  | cons change rest ih =>
    obtain ⟨hfree, hrest⟩ := List.forall_mem_cons.1 free
    refine ih ?_ hrest
    show ((change.apply c).toOption.getD c).Reloadable
    cases ha : change.apply c with
    | error problem => exact h
    | ok c' => exact change.reloadable_of_apply h hfree ha

/-- Whatever a session has loaded and adjusted, its configuration comes back from its own
document, whatever the settings are then, even if these name no format. It is
the same configuration: it is written out as before, the same rules are for a metric, and
metrics and batches have the same paths, failures and logs. -/
theorem reload_after (changes : List Change) (settings : Settings)
    (free : ∀ change ∈ changes, change.isTupleFree) :
    Config.ofValue (after .standard changes).toValue settings = .ok (after .standard changes) :=
  (reloadable_after .standard free).ofValue_toValue settings

end

def sampleChanges : List Change :=
  [.document (.map [(.str "write", .map [
      (.str "template_data", .map [(.str "hosts", .list [.str "a", .map [(.int 1, .null)], .list []])]),
      (.str "rules", .list [.map [(.str "match_re", .map [(.str "job", .str "^db")])],
        .map [(.str "template", .str "t"), (.str "continue", .bool true)]])])]) .standard,
    .document (.str "no mapping") .standard, .adjust (some "p.") (some "carbon-tags")]

theorem reload_after_sample : (∀ change ∈ sampleChanges, change.isTupleFree) ∧
    Config.ofValue (after .standard sampleChanges).toValue ⟨none, "", "no format", "INFO"⟩ =
      .ok (after .standard sampleChanges) :=
  ⟨by decide, reload_after sampleChanges _ (by decide)⟩

end Session
end MetricPaths
