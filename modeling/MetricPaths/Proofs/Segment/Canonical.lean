import MetricPaths.Segment
import MetricPaths.Proofs.Text.Utf8

/-! The canonical segments: those that escaping writes. Reading gives back the value
that was escaped, and a segment that can be read is an escaped value exactly if
each of its pieces is the one that escaping would have chosen. -/
namespace MetricPaths
namespace Segment

theorem toNat_ofNat_byte (b : UInt8) : (Char.ofNat b.toNat).toNat = b.toNat :=
  Utf8.toNat_ofNat_of_valid (Or.inl (by have := b.toNat_lt; omega))

theorem le_iff_toNat_le {c d : Char} : c ≤ d ↔ c.toNat ≤ d.toNat := Iff.rfl

theorem disposition_eq_verbatim_iff {b : UInt8} :
    disposition b = .verbatim ↔ Char.ofNat b.toNat ∉ percentEncoded ∧
      Char.ofNat b.toNat ∉ backslashEscaped ∧ 33 ≤ b.toNat ∧ b.toNat ≤ 126 := by
  have range : ('!' ≤ Char.ofNat b.toNat ∧ Char.ofNat b.toNat ≤ '~') ↔
      33 ≤ b.toNat ∧ b.toNat ≤ 126 := by
    rw [le_iff_toNat_le, le_iff_toNat_le, toNat_ofNat_byte]
    rfl
  simp only [disposition, ← range]
  split_ifs <;> simp_all

theorem disposition_eq_backslash_iff {b : UInt8} :
    disposition b = .backslash ↔ Char.ofNat b.toNat ∈ backslashEscaped := by
  have apart : backslashEscaped.all (· ∉ percentEncoded) = true := by decide
  simp only [disposition]
  split_ifs with percent backslash
  · simpa using fun h => of_decide_eq_true (List.all_eq_true.1 apart _ h) percent
  · simpa using backslash
  · simpa using backslash
  · simpa using backslash

theorem toNat_lt_of_mem_backslashEscaped {c : Char} (h : c ∈ backslashEscaped) :
    c.toNat < 128 := by
  have all : backslashEscaped.all (·.toNat < 128) = true := by decide
  exact of_decide_eq_true (List.all_eq_true.1 all c h)

theorem hexValue?_hexDigit {n : Nat} (h : n < 16) : hexValue? (hexDigit n) = some n := by
  revert n
  decide

def upperHexDigits : List Char := "0123456789ABCDEF".toList

def Token.write : Token → List Char
  | .percent b => ['%', hexDigit (b.toNat / 16), hexDigit (b.toNat % 16)]
  | .quoted c => ['\\', c]
  | .plain c => [c]

/-- Whether a piece is the one that escaping chooses for what it stands for. -/
def Token.IsCanonical : Token → Prop
  | .percent b => disposition b = .percent
  | .quoted c => c ∈ backslashEscaped
  | .plain c => '!' ≤ c ∧ c ≤ '~' ∧ disposition (UInt8.ofNat c.toNat) = .verbatim

/-- A segment that is made of canonical pieces whose bytes are a text. -/
def Canonical (segment : List Char) : Prop :=
  ∃ ts : List Token, (∀ t ∈ ts, t.IsCanonical) ∧ segment = ts.flatMap Token.write ∧
    ∃ value, Utf8.decode (ts.flatMap Token.bytes) = .ok value

def Token.ofByte (b : UInt8) : Token :=
  match disposition b with
  | .verbatim => .plain (Char.ofNat b.toNat)
  | .backslash => .quoted (Char.ofNat b.toNat)
  | .percent => .percent b

@[simp] theorem Token.write_ofByte (b : UInt8) : (Token.ofByte b).write = encodeByte b := by
  unfold Token.ofByte encodeByte
  cases disposition b <;> rfl

theorem encodeChar_of_lt {c : Char} (h : c.toNat < 128) :
    Utf8.encodeChar c = [UInt8.ofNat c.toNat] := by
  rw [Utf8.encodeChar, if_pos h]

@[simp] theorem Token.bytes_ofByte (b : UInt8) : (Token.ofByte b).bytes = [b] := by
  unfold Token.ofByte
  cases h : disposition b with
  | verbatim =>
    have hb := (disposition_eq_verbatim_iff.1 h).2.2
    dsimp only [Token.bytes]
    rw [encodeChar_of_lt (by rw [toNat_ofNat_byte]; omega), toNat_ofNat_byte, UInt8.ofNat_toNat]
  | backslash =>
    have hb := toNat_lt_of_mem_backslashEscaped (disposition_eq_backslash_iff.1 h)
    dsimp only [Token.bytes]
    rw [encodeChar_of_lt hb, toNat_ofNat_byte, UInt8.ofNat_toNat]
  | percent => rfl

theorem Token.isCanonical_ofByte (b : UInt8) : (Token.ofByte b).IsCanonical := by
  unfold Token.ofByte
  cases h : disposition b with
  | verbatim =>
    have hb := (disposition_eq_verbatim_iff.1 h).2.2
    refine ⟨?_, ?_, ?_⟩
    · rw [le_iff_toNat_le, toNat_ofNat_byte]; exact hb.1
    · rw [le_iff_toNat_le, toNat_ofNat_byte]; exact hb.2
    · rw [toNat_ofNat_byte, UInt8.ofNat_toNat, h]
  | backslash => exact disposition_eq_backslash_iff.1 h
  | percent => exact h

theorem Token.eq_ofByte {t : Token} (h : t.IsCanonical) : ∃ b, t = Token.ofByte b := by
  cases t with
  | percent b => exact ⟨b, by rw [Token.ofByte, show disposition b = .percent from h]⟩
  | quoted c =>
    have hc : (UInt8.ofNat c.toNat).toNat = c.toNat :=
      Utf8.toNat_byte (by have := toNat_lt_of_mem_backslashEscaped h; omega)
    refine ⟨UInt8.ofNat c.toNat, ?_⟩
    have hd : disposition (UInt8.ofNat c.toNat) = .backslash := by
      rw [disposition_eq_backslash_iff, hc, Char.ofNat_toNat]; exact h
    rw [Token.ofByte, hd, hc, Char.ofNat_toNat]
  | plain c =>
    obtain ⟨-, high, hd⟩ := h
    have hc : (UInt8.ofNat c.toNat).toNat = c.toNat :=
      Utf8.toNat_byte (by have := le_iff_toNat_le.1 high; have : '~'.toNat = 126 := rfl; omega)
    refine ⟨UInt8.ofNat c.toNat, ?_⟩
    rw [Token.ofByte, hd, hc, Char.ofNat_toNat]

theorem escape_eq (value : List Char) :
    escape value = ((Utf8.encode value).map Token.ofByte).flatMap Token.write := by
  simp [escape, List.flatMap_map]

theorem isCanonical_of_mem_map_ofByte (bytes : List UInt8) :
    ∀ t ∈ bytes.map Token.ofByte, t.IsCanonical := by
  intro t ht
  obtain ⟨b, -, rfl⟩ := List.mem_map.1 ht
  exact Token.isCanonical_ofByte b

theorem bytes_map_ofByte (bytes : List UInt8) :
    (bytes.map Token.ofByte).flatMap Token.bytes = bytes := by
  simp [List.flatMap_map]

theorem map_ofByte_bytes {ts : List Token} (h : ∀ t ∈ ts, t.IsCanonical) :
    (ts.flatMap Token.bytes).map Token.ofByte = ts := by
  induction ts with
  | nil => rfl
  | cons t ts ih =>
    obtain ⟨b, rfl⟩ := Token.eq_ofByte (h t (by simp))
    rw [List.flatMap_cons, List.map_append, ih fun u hu => h u (by simp [hu])]
    simp

theorem tokens_write {t : Token} (h : t.IsCanonical) (position : Nat) (rest : List Char) :
    tokens position (t.write ++ rest) =
      (tokens (position + t.write.length) rest).map (t :: ·) := by
  cases t with
  | percent b =>
    have hb := b.toNat_lt
    have value : 16 * (b.toNat / 16) + b.toNat % 16 = b.toNat := by omega
    simp only [Token.write, List.cons_append, List.nil_append, tokens, List.length_cons,
      List.length_nil, hexValue?_hexDigit (show b.toNat / 16 < 16 by omega),
      hexValue?_hexDigit (show b.toNat % 16 < 16 by omega), value, UInt8.ofNat_toNat]
  | quoted c => rfl
  | plain c =>
    have hp : c ≠ '%' := by rintro rfl; exact absurd h.2.2 (by decide)
    have hq : c ≠ '\\' := by rintro rfl; exact absurd h.2.2 (by decide)
    rw [Token.write, List.singleton_append, tokens]
    · rfl
    · exact hp
    · exact hq

theorem tokens_flatMap_write {ts : List Token} (h : ∀ t ∈ ts, t.IsCanonical) (position : Nat) :
    tokens position (ts.flatMap Token.write) = .ok ts := by
  induction ts generalizing position with
  | nil => rfl
  | cons t ts ih =>
    rw [List.flatMap_cons, tokens_write (h t (by simp)), ih fun u hu => h u (by simp [hu])]
    rfl

/-- What was escaped is read back. -/
@[simp] theorem unescape_escape (value : List Char) : unescape (escape value) = .ok value := by
  rw [unescape, escape_eq, tokens_flatMap_write (isCanonical_of_mem_map_ofByte _)]
  simp only [bytes_map_ofByte, Utf8.decode_encode]

theorem escape_injective {s t : List Char} (h : escape s = escape t) : s = t := by
  have hu := congrArg unescape h
  rw [unescape_escape, unescape_escape] at hu
  exact Except.ok.inj hu

theorem canonical_iff_exists_escape {segment : List Char} :
    Canonical segment ↔ ∃ value, escape value = segment := by
  constructor
  · rintro ⟨ts, canonical, rfl, value, hv⟩
    refine ⟨value, ?_⟩
    rw [escape_eq, ← Utf8.decode_eq_ok_iff.1 hv, map_ofByte_bytes canonical]
  · rintro ⟨value, rfl⟩
    refine ⟨(Utf8.encode value).map Token.ofByte, isCanonical_of_mem_map_ofByte _,
      escape_eq value, value, ?_⟩
    rw [bytes_map_ofByte, Utf8.decode_encode]

/-- Every character with a role in a layout stands behind a backslash of its own. -/
inductive Guarded : List Char → Prop
  | nil : Guarded []
  | plain {c : Char} {rest : List Char} : c ∉ backslashEscaped → Guarded rest → Guarded (c :: rest)
  | behind {c : Char} {rest : List Char} :
      c ∈ backslashEscaped → Guarded rest → Guarded ('\\' :: c :: rest)

theorem Guarded.append {s t : List Char} (hs : Guarded s) (ht : Guarded t) : Guarded (s ++ t) := by
  induction hs with
  | nil => exact ht
  | plain hc _ ih => exact .plain hc ih
  | behind hc _ ih => exact .behind hc ih

theorem hexDigit_mem {n : Nat} (h : n < 16) : hexDigit n ∈ upperHexDigits := by
  revert n
  decide

theorem notMem_backslashEscaped_of_hexDigit {c : Char} (h : c ∈ upperHexDigits) :
    c ∉ backslashEscaped := by
  have all : upperHexDigits.all (· ∉ backslashEscaped) = true := by decide
  exact of_decide_eq_true (List.all_eq_true.1 all c h)

theorem guarded_encodeByte (b : UInt8) : Guarded (encodeByte b) := by
  have hb := b.toNat_lt
  unfold encodeByte
  cases h : disposition b with
  | verbatim => exact .plain (disposition_eq_verbatim_iff.1 h).2.1 .nil
  | backslash => exact .behind (disposition_eq_backslash_iff.1 h) .nil
  | percent =>
    have high := notMem_backslashEscaped_of_hexDigit (hexDigit_mem (n := b.toNat / 16) (by omega))
    have low := notMem_backslashEscaped_of_hexDigit (hexDigit_mem (n := b.toNat % 16) (by omega))
    exact .plain (by decide) (.plain high (.plain low .nil))

theorem guarded_escape (value : List Char) : Guarded (escape value) := by
  unfold escape
  induction Utf8.encode value with
  | nil => exact .nil
  | cons b bytes ih => exact (guarded_encodeByte b).append ih

theorem printable_of_mem {c : Char} (h : c ∈ upperHexDigits ++ backslashEscaped) :
    '!' ≤ c ∧ c ≤ '~' ∧ c ∉ ['.', '/', '='] := by
  have all : (upperHexDigits ++ backslashEscaped).all
      (fun c => '!' ≤ c ∧ c ≤ '~' ∧ c ∉ ['.', '/', '=']) = true := by decide
  exact of_decide_eq_true (List.all_eq_true.1 all c h)

/-- Escaping writes printable characters only, and none that separates segments or
tags from their values. -/
theorem printable_of_mem_escape {value : List Char} {c : Char} (h : c ∈ escape value) :
    '!' ≤ c ∧ c ≤ '~' ∧ c ∉ ['.', '/', '='] := by
  obtain ⟨b, -, hc⟩ := List.mem_flatMap.1 h
  have hb := b.toNat_lt
  unfold encodeByte at hc
  cases hd : disposition b with
  | verbatim =>
    obtain ⟨notPercent, -, low, high⟩ := disposition_eq_verbatim_iff.1 hd
    rw [hd, List.mem_singleton] at hc
    subst hc
    refine ⟨?_, ?_, fun hm => notPercent ?_⟩
    · rw [le_iff_toNat_le, toNat_ofNat_byte]; exact low
    · rw [le_iff_toNat_le, toNat_ofNat_byte]; exact high
    · exact List.mem_append_left ['%'] hm
  | backslash =>
    rw [hd] at hc
    simp only [List.mem_cons, List.not_mem_nil, or_false] at hc
    rcases hc with rfl | rfl
    · decide
    · exact printable_of_mem (List.mem_append_right _ (disposition_eq_backslash_iff.1 hd))
  | percent =>
    rw [hd] at hc
    simp only [List.mem_cons, List.not_mem_nil, or_false] at hc
    rcases hc with rfl | rfl | rfl
    · decide
    · exact printable_of_mem (List.mem_append_left _ (hexDigit_mem (by omega)))
    · exact printable_of_mem (List.mem_append_left _ (hexDigit_mem (by omega)))

/-- Escaping maps the values one to one onto the canonical segments, and reading is its
inverse there. All other segments that can be read stand for a value that is
escaped differently. -/
theorem escape_bijective_onto_canonical :
    (∀ value, Canonical (escape value) ∧ unescape (escape value) = .ok value) ∧
    (∀ segment value, unescape segment = .ok value →
      (escape value = segment ↔ Canonical segment)) ∧
    (∀ s t, escape s = escape t → s = t) ∧
    ∀ value, Guarded (escape value) ∧
      ∀ c ∈ escape value, '!' ≤ c ∧ c ≤ '~' ∧ c ∉ ['.', '/', '='] := by
  refine ⟨fun value => ⟨?_, unescape_escape value⟩, fun segment value h => ⟨?_, ?_⟩,
    fun _ _ => escape_injective,
    fun value => ⟨guarded_escape value, fun _ => printable_of_mem_escape⟩⟩
  · exact canonical_iff_exists_escape.2 ⟨value, rfl⟩
  · exact fun he => canonical_iff_exists_escape.2 ⟨value, he⟩
  · intro hc
    obtain ⟨written, rfl⟩ := canonical_iff_exists_escape.1 hc
    rw [unescape_escape] at h
    rw [Except.ok.inj h]

/-- A dot with its digits in lower case is read and is no canonical segment. -/
theorem lowerCase_notCanonical :
    unescape "%2e".toList = .ok ['.'] ∧ ¬ Canonical "%2e".toList :=
  ⟨rfl, fun h => absurd ((escape_bijective_onto_canonical.2.1 _ _ rfl).2 h) (by decide)⟩

end Segment
end MetricPaths
