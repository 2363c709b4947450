import MetricPaths.Proofs.Segment.Language

/-! Segments one behind the other. Behind a segment that can be read, another is read as if it
stood alone: the first ends with a whole piece and with a whole character, so that nothing of the
second is needed for it, and nothing of it is left for the second. -/
namespace MetricPaths

namespace Utf8

theorem decode_encode_append (s : List Char) (rest : List UInt8) :
    decode (encode s ++ rest) = (decode rest).map (s ++ ·) := by
  unfold decode
  induction s with
  | nil => cases h : decodeFrom none rest <;> simp [h, Except.map]
  | cons c s ih =>
    rw [encode_cons, List.append_assoc, decodeFrom_encodeChar, ih]
    cases decodeFrom none rest <;> rfl

end Utf8

namespace Segment

/-- A fault of a segment that stands behind so many characters. -/
def Fault.behind (n : Nat) : Fault → Fault
  | .malformedPercent position => .malformedPercent (n + position)
  | .danglingBackslash position => .danglingBackslash (n + position)
  | .notText fault => .notText fault

theorem Stuck.behind_eq {rest : List Char} {blame : Nat → Fault} (h : Stuck rest blame)
    (n position : Nat) : (blame position).behind n = blame (n + position) := by
  cases h <;> rfl

theorem tokens_behind (n position : Nat) (s : List Char) :
    tokens (n + position) s = (tokens position s).mapError (Fault.behind n) := by
  obtain ⟨ts, spells⟩ | ⟨ts, done, rest, blame, spells, stuck, rfl⟩ := spells_or_stuck s
  · rw [(tokens_eq_ok_iff _).2 spells, (tokens_eq_ok_iff _).2 spells]
    rfl
  · rw [tokens_of_spells spells, tokens_of_spells spells, tokens_of_stuck stuck,
      tokens_of_stuck stuck, Nat.add_assoc]
    exact congrArg Except.error (stuck.behind_eq n _).symm

theorem exists_spells_of_unescape {s value : List Char} (h : unescape s = .ok value) :
    ∃ ts, Spells ts s ∧ ts.flatMap Token.bytes = Utf8.encode value := by
  obtain ⟨ts, spells⟩ | ⟨ts, done, rest, blame, spells, stuck, rfl⟩ := spells_or_stuck s
  · rw [unescape_of_spells spells, mapError_eq_ok_iff] at h
    exact ⟨ts, spells, Utf8.decode_eq_ok_iff.1 h⟩
  · rw [unescape_of_stuck spells stuck] at h
    cases h

/-- A segment behind one that can be read is read by itself; its faults are as much further on as
the first is long. -/
theorem unescape_append {s value : List Char} (h : unescape s = .ok value) (t : List Char) :
    unescape (s ++ t) =
      ((unescape t).map (value ++ ·)).mapError (Fault.behind s.length) := by
  obtain ⟨ts, spells, bytes⟩ := exists_spells_of_unescape h
  have pieces : tokens 0 (s ++ t) =
      ((tokens 0 t).map (ts ++ ·)).mapError (Fault.behind s.length) := by
    rw [tokens_of_spells spells, Nat.zero_add, ← Nat.add_zero s.length, tokens_behind]
    cases tokens 0 t <;> rfl
  rw [unescape, unescape, pieces]
  cases tokens 0 t with
  | error fault => rfl
  | ok us =>
    dsimp only [Except.map, Except.mapError]
    rw [List.flatMap_append, bytes, Utf8.decode_encode_append]
    cases Utf8.decode (us.flatMap Token.bytes) <;> rfl

/-- Texts one behind the other are escaped each by itself. Segments one behind the other are read
each by itself if the first can be read at all; then the second can be read if the whole can, and
is blamed for the same. As only the empty segment stands for the empty text, the name that is read
from a path is never empty. -/
theorem escape_unescape_of_append :
    (∀ a b, escape (a ++ b) = escape a ++ escape b) ∧
    (∀ s t v w, unescape s = .ok v → unescape t = .ok w → unescape (s ++ t) = .ok (v ++ w)) ∧
    (∀ s t v u, unescape s = .ok v → unescape (s ++ t) = .ok u →
      ∃ w, unescape t = .ok w ∧ u = v ++ w) ∧
    (∀ s t v fault, unescape s = .ok v → unescape t = .error fault →
      unescape (s ++ t) = .error (fault.behind s.length)) ∧
    (∀ s, unescape s = .ok [] ↔ s = []) ∧
    ∀ path lead found, LabelPath.labels path lead = .ok found →
      ∃ name others, found = (nameLabel, name) :: others ∧ name ≠ "" := by
  refine ⟨escape_append, fun s t v w hs ht => ?_, fun s t v u hs hu => ?_,
    fun s t v fault hs ht => ?_, fun s => ⟨eq_nil_of_unescape, ?_⟩, fun path lead found h => ?_⟩
  · rw [unescape_append hs, ht]
    rfl
  · rw [unescape_append hs, mapError_eq_ok_iff, map_eq_ok_iff] at hu
    obtain ⟨w, hw, rfl⟩ := hu
    exact ⟨w, hw, rfl⟩
  · rw [unescape_append hs, ht]
    rfl
  · rintro rfl
    rfl
  · obtain ⟨k, name, tags, splits⟩ := LabelPath.exists_splits h
    obtain ⟨value, others, hv, -, rfl⟩ := (LabelPath.labels_eq_ok_iff splits).1 h
    exact ⟨value, others, rfl, LabelPath.decodeSegment_ne_empty splits.name_ne hv⟩

/-- Behind one of six characters the second segment is at fault at its first. The bytes of a
character can be read together, and not apart. -/
theorem escape_unescape_of_append_sample :
    unescape ("%C3%B6".toList ++ "\\.x".toList) = .ok ("ö".toList ++ ".x".toList) ∧
    (∃ w, unescape "\\.x".toList = .ok w ∧ "ö".toList ++ ".x".toList = "ö".toList ++ w) ∧
    unescape ("%C3%B6".toList ++ "%z".toList) = .error (.malformedPercent 6) ∧
    (∃ name others, LabelPath.labels "%C3%B6" "" = .ok ((nameLabel, name) :: others) ∧ name ≠ "") ∧
    unescape ("%C3".toList ++ "%B6".toList) = .ok "ö".toList ∧
    ∃ fault, unescape "%C3".toList = .error fault := by
  obtain ⟨-, both, second, faulty, -, named⟩ := escape_unescape_of_append
  have first : unescape "%C3%B6".toList = .ok "ö".toList := by decide +kernel
  have whole := both _ "\\.x".toList _ ".x".toList first rfl
  have further := faulty _ "%z".toList _ (.malformedPercent 0) first rfl
  have labels : LabelPath.labels "%C3%B6" "" = .ok [(nameLabel, "ö")] := by decide +kernel
  obtain ⟨name, others, found, nonEmpty⟩ := named _ _ _ labels
  refine ⟨whole, second _ _ _ _ first whole, further, ?_, first, _, rfl⟩
  exact ⟨name, others, found ▸ labels, nonEmpty⟩

end Segment
end MetricPaths
