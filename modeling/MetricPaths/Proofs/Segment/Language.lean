import MetricPaths.Proofs.LabelPath.Normal
import MetricPaths.Proofs.Segment.Canonical
import Mathlib.Data.List.SplitBy
import Mathlib.Tactic.IntervalCases

/-! The language of segments. A segment is read piece by piece, and blamed for the first piece
that cannot be read, whatever stands in front of it. The bytes that are written out in digits are
a text run by run: no other piece makes up for what is missing in a run, and none spoils it. -/
namespace MetricPaths
namespace Segment

def lowerHexDigits : List Char := "0123456789abcdef".toList

def IsHexDigit (c : Char) (n : Nat) : Prop :=
  upperHexDigits[n]? = some c ∨ lowerHexDigits[n]? = some c

theorem hexValue?_getElem : (∀ i : Fin 16, hexValue? upperHexDigits[i] = some i.val) ∧
    ∀ i : Fin 16, hexValue? lowerHexDigits[i] = some i.val := by decide

theorem isHexDigit_of_hexValue? {c : Char} {n : Nat} (h : hexValue? c = some n) :
    IsHexDigit c n := by
  have back : Char.ofNat c.toNat = c := Char.ofNat_toNat c
  simp only [hexValue?, le_iff_toNat_le] at h
  generalize c.toNat = k at h back
  subst back
  split_ifs at h with digit upper lower <;> cases h
  · obtain ⟨low, high⟩ : 48 ≤ k ∧ k ≤ 57 := digit
    interval_cases k <;> exact .inl rfl
  · obtain ⟨low, high⟩ : 65 ≤ k ∧ k ≤ 70 := upper
    interval_cases k <;> exact .inl rfl
  · obtain ⟨low, high⟩ : 97 ≤ k ∧ k ≤ 102 := lower
    interval_cases k <;> exact .inr rfl

theorem hexValue?_eq_some_iff {c : Char} {n : Nat} : hexValue? c = some n ↔ IsHexDigit c n := by
  constructor
  · exact isHexDigit_of_hexValue?
  · rintro (h | h)
    · obtain ⟨small, rfl⟩ := List.getElem?_eq_some_iff.1 h
      exact hexValue?_getElem.1 ⟨n, small⟩
    · obtain ⟨small, rfl⟩ := List.getElem?_eq_some_iff.1 h
      exact hexValue?_getElem.2 ⟨n, small⟩

/-- How a piece can be written: a byte by two digits, and a character behind a backslash or, if
it is no sign of its own, as it is. -/
inductive Token.Written : Token → List Char → Prop
  | percent {high low : Char} {h l : Nat} : IsHexDigit high h → IsHexDigit low l →
      Written (.percent (UInt8.ofNat (16 * h + l))) ['%', high, low]
  | quoted (c : Char) : Written (.quoted c) ['\\', c]
  | plain {c : Char} : c ≠ '%' → c ≠ '\\' → Written (.plain c) [c]

inductive Spells : List Token → List Char → Prop
  | nil : Spells [] []
  | cons {t : Token} {ts : List Token} {piece rest : List Char} :
      t.Written piece → Spells ts rest → Spells (t :: ts) (piece ++ rest)

def BeginsByte (rest : List Char) : Prop :=
  ∃ high low after h l, rest = high :: low :: after ∧ IsHexDigit high h ∧ IsHexDigit low l

/-- A text of which not even the first piece can be read, and what it is blamed for. -/
inductive Stuck : List Char → (Nat → Fault) → Prop
  | percent {rest : List Char} : ¬ BeginsByte rest → Stuck ('%' :: rest) .malformedPercent
  | backslash : Stuck ['\\'] .danglingBackslash

theorem tokens_of_written {t : Token} {piece : List Char} (h : t.Written piece) (position : Nat)
    (rest : List Char) :
    tokens position (piece ++ rest) = (tokens (position + piece.length) rest).map (t :: ·) := by
  cases h with
  | percent high low =>
    simp only [List.cons_append, List.nil_append, tokens, List.length_cons, List.length_nil,
      hexValue?_eq_some_iff.2 high, hexValue?_eq_some_iff.2 low]
  | quoted c => rfl
  | plain notPercent notBackslash =>
    rw [List.singleton_append, tokens]
    · rfl
    · exact notPercent
    · exact notBackslash

theorem tokens_of_stuck {s : List Char} {blame : Nat → Fault} (h : Stuck s blame)
    (position : Nat) : tokens position s = .error (blame position) := by
  cases h with
  | backslash => rfl
  | @percent rest noByte =>
    cases rest with
    | nil => rfl
    | cons high rest =>
      cases rest with
      | nil => rfl
      | cons low after =>
        rw [tokens]
        split
        · next h l hh hl =>
          exact absurd ⟨high, low, after, h, l, rfl, hexValue?_eq_some_iff.1 hh,
            hexValue?_eq_some_iff.1 hl⟩ noByte
        · rfl

theorem written_or_stuck (c : Char) (rest : List Char) :
    (∃ (t : Token) (piece after : List Char), t.Written piece ∧ c :: rest = piece ++ after) ∨
      ∃ blame, Stuck (c :: rest) blame := by
  by_cases percent : c = '%'
  · subst percent
    by_cases byte : BeginsByte rest
    · obtain ⟨high, low, after, h, l, rfl, hh, hl⟩ := byte
      exact .inl ⟨_, _, after, .percent hh hl, rfl⟩
    · exact .inr ⟨_, .percent byte⟩
  by_cases backslash : c = '\\'
  · subst backslash
    cases rest with
    | nil => exact .inr ⟨_, .backslash⟩
    | cons d after => exact .inl ⟨_, _, after, .quoted d, rfl⟩
  · exact .inl ⟨_, _, rest, .plain percent backslash, rfl⟩

theorem Token.Written.length_pos {t : Token} {piece : List Char} (h : t.Written piece) :
    0 < piece.length := by
  cases h <;> exact Nat.succ_pos _

/-- A text is read to its end, or up to a piece that cannot be read. -/
theorem spells_or_stuck (s : List Char) :
    (∃ ts, Spells ts s) ∨
      ∃ ts done rest blame, Spells ts done ∧ Stuck rest blame ∧ s = done ++ rest := by
  induction hn : s.length using Nat.strong_induction_on generalizing s with
  | _ n ih =>
    cases s with
    | nil => exact .inl ⟨[], .nil⟩
    | cons c s =>
      obtain ⟨t, piece, after, written, hs⟩ | ⟨blame, stuck⟩ := written_or_stuck c s
      · have shorter : after.length < n := by
          have := written.length_pos
          rw [← hn, hs, List.length_append]
          omega
        rw [hs]
        obtain ⟨ts, spells⟩ | ⟨ts, done, rest, blame, spells, stuck, rfl⟩ := ih _ shorter after rfl
        · exact .inl ⟨t :: ts, .cons written spells⟩
        · exact .inr ⟨t :: ts, piece ++ done, rest, blame, .cons written spells, stuck,
            (List.append_assoc ..).symm⟩
      · exact .inr ⟨[], [], c :: s, blame, .nil, stuck, rfl⟩

theorem tokens_of_spells {ts : List Token} {done : List Char} (h : Spells ts done)
    (position : Nat) (rest : List Char) : tokens position (done ++ rest) =
      (tokens (position + done.length) rest).map (ts ++ ·) := by
  induction h generalizing position with
  | nil =>
    rw [List.nil_append, List.length_nil, Nat.add_zero]
    cases tokens position rest <;> rfl
  | @cons t ts piece done written _ ih =>
    rw [List.append_assoc, tokens_of_written written, ih, List.length_append, Nat.add_assoc]
    cases tokens (position + (piece.length + done.length)) rest <;> rfl

theorem tokens_eq_ok_iff {s : List Char} {ts : List Token} (position : Nat) :
    tokens position s = .ok ts ↔ Spells ts s := by
  have read {ts : List Token} (h : Spells ts s) : tokens position s = .ok ts := by
    have all := tokens_of_spells h position []
    rw [List.append_nil] at all
    simp [all, tokens, Except.map]
  constructor
  · intro h
    obtain ⟨ts', spells⟩ | ⟨ts', done, rest, blame, spells, stuck, rfl⟩ := spells_or_stuck s
    · rw [read spells, Except.ok.injEq] at h
      exact h ▸ spells
    · rw [tokens_of_spells spells, tokens_of_stuck stuck] at h
      cases h
  · exact read

theorem unescape_of_stuck {ts : List Token} {done rest : List Char} {blame : Nat → Fault}
    (spells : Spells ts done) (stuck : Stuck rest blame) :
    unescape (done ++ rest) = .error (blame done.length) := by
  rw [unescape, tokens_of_spells spells, tokens_of_stuck stuck, Nat.zero_add]
  rfl

theorem unescape_of_spells {s : List Char} {ts : List Token} (h : Spells ts s) :
    unescape s = (Utf8.decode (ts.flatMap Token.bytes)).mapError .notText := by
  rw [unescape, (tokens_eq_ok_iff 0).2 h]
  dsimp only
  cases Utf8.decode (ts.flatMap Token.bytes) <;> rfl

def Token.isPercent : Token → Bool
  | .percent _ => true
  | .quoted _ | .plain _ => false

/-- The pieces in groups: the longest runs of written bytes, and every other piece alone. -/
def groups (ts : List Token) : List (List Token) :=
  ts.splitBy fun t u => t.isPercent && u.isPercent

/-- The text that a group is by itself. -/
inductive Stands : List Token → List Char → Prop
  | run {group : List Token} {s : List Char} :
      group = (Utf8.encode s).map .percent → Stands group s
  | quoted (c : Char) : Stands [.quoted c] [c]
  | plain (c : Char) : Stands [.plain c] [c]

theorem stands_run_iff {bytes : List UInt8} {s : List Char} (h : bytes ≠ []) :
    Stands (bytes.map .percent) s ↔ bytes = Utf8.encode s := by
  have injective : Function.Injective Token.percent := fun _ _ => Token.percent.inj
  constructor
  · intro stands
    generalize hg : bytes.map Token.percent = group at stands
    cases stands with
    | run he => exact injective.list_map (hg.trans he)
    | quoted c => cases bytes <;> simp at hg
    | plain c => cases bytes <;> simp at hg
  · rintro rfl
    exact .run rfl

theorem exists_char_of_isPercent {t : Token} (h : t.isPercent = false) :
    ∃ c, t.bytes = Utf8.encodeChar c ∧ ∀ s, Stands [t] s ↔ s = [c] := by
  cases t with
  | percent b => cases h
  | quoted c =>
    refine ⟨c, rfl, fun s => ⟨fun stands => ?_, fun hs => hs ▸ .quoted c⟩⟩
    cases stands with
    | run he => cases bytes : Utf8.encode s <;> simp [bytes] at he
    | quoted => rfl
  | plain c =>
    refine ⟨c, rfl, fun s => ⟨fun stands => ?_, fun hs => hs ▸ .plain c⟩⟩
    cases stands with
    | run he => cases bytes : Utf8.encode s <;> simp [bytes] at he
    | plain => rfl

theorem exists_run (ts : List Token) : ∃ (bytes : List UInt8) (rest : List Token),
    ts = bytes.map .percent ++ rest ∧ ∀ t ∈ rest.head?, t.isPercent = false := by
  induction ts with
  | nil => exact ⟨[], [], rfl, by simp⟩
  | cons t ts ih =>
    cases ht : t.isPercent with
    | false => exact ⟨[], t :: ts, rfl, by simpa using ht⟩
    | true =>
      obtain ⟨bytes, rest, rfl, hr⟩ := ih
      cases t with
      | percent b => exact ⟨b :: bytes, rest, rfl, hr⟩
      | quoted c => cases ht
      | plain c => cases ht

/-- Induction on the groups of pieces. -/
theorem group_induction {motive : List Token → Prop} (nil : motive [])
    (char : ∀ t ts, t.isPercent = false → motive ts → motive (t :: ts))
    (run : ∀ (bytes : List UInt8) rest, bytes ≠ [] → (∀ t ∈ rest.head?, t.isPercent = false) →
      motive rest → motive (bytes.map .percent ++ rest)) (ts : List Token) : motive ts := by
  induction hn : ts.length using Nat.strong_induction_on generalizing ts with
  | _ n ih =>
    obtain ⟨bytes, rest, rfl, hr⟩ := exists_run ts
    cases bytes with
    | nil =>
      cases rest with
      | nil => exact nil
      | cons t rest =>
        have shorter : rest.length < n := hn ▸ Nat.lt_succ_self _
        exact char t rest (hr t rfl) (ih _ shorter rest rfl)
    | cons b bytes =>
      have shorter : rest.length < n := by
        rw [← hn, List.length_append, List.length_map, List.length_cons]
        omega
      exact run _ _ (by simp) hr (ih _ shorter rest rfl)

theorem groups_cons {t : Token} (h : t.isPercent = false) (ts : List Token) :
    groups (t :: ts) = [t] :: groups ts :=
  List.splitBy_append (l := [t]) (by simp [h])

theorem groups_run {bytes : List UInt8} {rest : List Token} (hb : bytes ≠ [])
    (hr : ∀ t ∈ rest.head?, t.isPercent = false) :
    groups (bytes.map .percent ++ rest) = bytes.map .percent :: groups rest := by
  have together : groups (bytes.map .percent) = [bytes.map .percent] := by
    refine List.splitBy_of_isChain (by simpa using hb) ?_
    rw [List.isChain_map]
    exact (List.pairwise_of_forall fun _ _ => rfl).isChain
  rw [groups, List.splitBy_append, ← groups, ← groups, together, List.singleton_append]
  intro t _ u hu
  rw [hr u hu, Bool.and_false]

theorem encode_eq_iff_stands {ts : List Token} {s : List Char} :
    Utf8.encode s = ts.flatMap Token.bytes ↔
      ∃ parts, List.Forall₂ Stands (groups ts) parts ∧ s = parts.flatten := by
  induction ts using group_induction generalizing s with
  | nil =>
    have empty : Utf8.encode s = [] ↔ s = [] := by
      rw [eq_comm, ← Utf8.decode_eq_ok_iff]
      exact ⟨fun h => (Except.ok.inj h).symm, fun h => h ▸ rfl⟩
    simp [empty, groups, List.splitBy_nil]
  | char t ts ht ih =>
    obtain ⟨c, hc, stands⟩ := exists_char_of_isPercent ht
    simp only [List.flatMap_cons, hc, Utf8.encode_eq_append_encodeChar_iff, ih, groups_cons ht,
      List.forall₂_cons_left_iff, stands]
    constructor
    · rintro ⟨t, rfl, parts, hp, rfl⟩
      exact ⟨[c] :: parts, ⟨_, parts, rfl, hp, rfl⟩, rfl⟩
    · rintro ⟨_, ⟨_, parts, rfl, hp, rfl⟩, rfl⟩
      exact ⟨parts.flatten, rfl, parts, hp, rfl⟩
  | run bytes rest hb hr ih =>
    have split : (bytes.map Token.percent ++ rest).flatMap Token.bytes =
        bytes ++ rest.flatMap Token.bytes := by
      rw [List.flatMap_append, List.flatMap_map]
      exact congrArg (· ++ _) (List.flatMap_singleton' bytes)
    -- Behind the run stands a character or nothing, so that the bytes can be cut there.
    have boundary : ∀ b ∈ (rest.flatMap Token.bytes).head?, ¬ Utf8.IsContinuation b := by
      cases rest with
      | nil => simp
      | cons t rest =>
        obtain ⟨c, hc, -⟩ := exists_char_of_isPercent (hr t rfl)
        obtain ⟨b, more, he, first, -⟩ := Utf8.exists_encodeChar_eq c
        rw [List.flatMap_cons, hc, he]
        rintro _ ⟨⟩
        exact first
    rw [split, groups_run hb hr]
    simp only [List.forall₂_cons_left_iff, stands_run_iff hb]
    constructor
    · intro h
      obtain ⟨s₁, s₂, rfl, hs, hrest⟩ := Utf8.exists_of_encode_eq_append h boundary
      obtain ⟨parts, hp, rfl⟩ := ih.1 hrest.symm
      exact ⟨s₁ :: parts, ⟨s₁, parts, hs, hp, rfl⟩, rfl⟩
    · rintro ⟨_, ⟨s₁, parts, hs, hp, rfl⟩, rfl⟩
      rw [List.flatten_cons, Utf8.encode_append, ih.2 ⟨parts, hp, rfl⟩, ← hs]

theorem run_or_stands {ts group : List Token} (h : group ∈ groups ts) :
    (∃ bytes : List UInt8, group = bytes.map .percent) ∨ ∃ s, Stands group s := by
  induction ts using group_induction with
  | nil => cases h
  | char t ts ht ih =>
    rw [groups_cons ht, List.mem_cons] at h
    obtain rfl | h := h
    · obtain ⟨c, -, stands⟩ := exists_char_of_isPercent ht
      exact .inr ⟨[c], (stands [c]).2 rfl⟩
    · exact ih h
  | run bytes rest hb hr ih =>
    rw [groups_run hb hr, List.mem_cons] at h
    obtain rfl | h := h
    · exact .inl ⟨bytes, rfl⟩
    · exact ih h

theorem unescape_eq_ok_iff {s value : List Char} {ts : List Token} (h : Spells ts s) :
    unescape s = .ok value ↔
      ∃ parts, List.Forall₂ Stands (groups ts) parts ∧ value = parts.flatten := by
  rw [unescape_of_spells h, mapError_eq_ok_iff, Utf8.decode_eq_ok_iff, eq_comm,
    encode_eq_iff_stands]

/-- No run is completed or spoilt by what stands beside it. -/
theorem exists_unescape_iff {s : List Char} {ts : List Token} (h : Spells ts s) :
    (∃ value, unescape s = .ok value) ↔
      ∀ bytes : List UInt8, bytes.map .percent ∈ groups ts → ∃ text, bytes = Utf8.encode text := by
  have joined : (∃ value, unescape s = .ok value) ↔
      ∃ parts, List.Forall₂ Stands (groups ts) parts := by
    simp only [unescape_eq_ok_iff h]
    exact ⟨fun ⟨_, parts, hp, _⟩ => ⟨parts, hp⟩, fun ⟨parts, hp⟩ => ⟨_, parts, hp, rfl⟩⟩
  rw [joined, exists_forall₂_iff]
  constructor
  · intro all bytes hb
    cases bytes with
    | nil => exact ⟨[], rfl⟩
    | cons b bytes =>
      obtain ⟨text, stands⟩ := all _ hb
      exact ⟨text, (stands_run_iff (by simp)).1 stands⟩
  · intro runs group hg
    obtain ⟨bytes, rfl⟩ | alone := run_or_stands hg
    · obtain ⟨text, rfl⟩ := runs bytes hg
      exact ⟨text, .run rfl⟩
    · exact alone

end Segment

namespace LabelPath
open Segment

end LabelPath
end MetricPaths
