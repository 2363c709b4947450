import MetricPaths.Text.Utf8
import MetricPaths.Proofs.Except
import Mathlib.Tactic.SplitIfs
import Mathlib.Tactic.ByContra

/-! Reading UTF-8 is the inverse of writing it: the reader accepts exactly the
byte sequences that texts are written as, and gives the text back. -/
namespace MetricPaths
namespace Utf8

theorem toNat_ofNat_of_valid {n : Nat} (h : n.isValidChar) : (Char.ofNat n).toNat = n := by
  rw [Char.ofNat, dif_pos h]
  rfl

/-- What the range of the second byte leaves of the values of a character: no
overlong form, no surrogate and nothing above 10FFFF. -/
theorem ofLead?_eq_some {b : Nat} {p : Pending} (h : Pending.ofLead? b = some p) :
    (p.missing = 1 ∧ 0xC2 ≤ b ∧ b < 0xE0 ∧ p.bits = b - 0xC0 ∧
      ∀ x, p.low ≤ x ∧ x ≤ p.high ↔ 0x80 ≤ x ∧ x ≤ 0xBF) ∨
    (p.missing = 2 ∧ 0xE0 ≤ b ∧ b < 0xF0 ∧ p.bits = b - 0xE0 ∧
      ∀ x, p.low ≤ x ∧ x ≤ p.high ↔ 0x80 ≤ x ∧ x ≤ 0xBF ∧
        0x20 ≤ p.bits * 64 + (x - 0x80) ∧
        (p.bits * 64 + (x - 0x80) < 0x360 ∨ 0x37F < p.bits * 64 + (x - 0x80))) ∨
    (p.missing = 3 ∧ 0xF0 ≤ b ∧ b < 0xF5 ∧ p.bits = b - 0xF0 ∧
      ∀ x, p.low ≤ x ∧ x ≤ p.high ↔ 0x80 ≤ x ∧ x ≤ 0xBF ∧
        0x10 ≤ p.bits * 64 + (x - 0x80) ∧ p.bits * 64 + (x - 0x80) < 0x110) := by
  unfold Pending.ofLead? at h
  split_ifs at h <;> cases h
  · exact Or.inl ⟨rfl, by omega, by omega, rfl, fun x => Iff.rfl⟩
  · exact Or.inr (Or.inl ⟨rfl, by omega, by omega, by dsimp only; omega,
      fun x => by dsimp only; omega⟩)
  · exact Or.inr (Or.inl ⟨rfl, by omega, by omega, by dsimp only; omega,
      fun x => by dsimp only; omega⟩)
  · exact Or.inr (Or.inl ⟨rfl, by omega, by omega, rfl, fun x => by dsimp only; omega⟩)
  · exact Or.inr (Or.inr ⟨rfl, by omega, by omega, by dsimp only; omega,
      fun x => by dsimp only; omega⟩)
  · exact Or.inr (Or.inr ⟨rfl, by omega, by omega, rfl, fun x => by dsimp only; omega⟩)
  · exact Or.inr (Or.inr ⟨rfl, by omega, by omega, by dsimp only; omega,
      fun x => by dsimp only; omega⟩)

theorem exists_ofLead? {b : UInt8} (low : 0xC2 ≤ b.toNat) (high : b.toNat < 0xF5) :
    ∃ p, Pending.ofLead? b.toNat = some p := by
  unfold Pending.ofLead?
  split_ifs
  all_goals first | exact ⟨_, rfl⟩ | omega

theorem decodeFrom_lead {b : UInt8} {p : Pending} (rest : List UInt8)
    (h : Pending.ofLead? b.toNat = some p) :
    decodeFrom none (b :: rest) = decodeFrom (some p) rest := by
  have low : 0xC2 ≤ b.toNat := by rcases ofLead?_eq_some h with h | h | h <;> omega
  rw [decodeFrom, if_neg (by omega), h]

theorem decodeFrom_inner {p : Pending} {b : UInt8} (rest : List UInt8)
    (range : p.low ≤ b.toNat ∧ b.toNat ≤ p.high) (more : 1 < p.missing) :
    decodeFrom (some p) (b :: rest) =
      decodeFrom (some ⟨p.missing - 1, 0x80, 0xBF, p.bits * 64 + (b.toNat - 0x80)⟩) rest := by
  rw [decodeFrom, if_pos range, if_neg (by omega)]

theorem decodeFrom_last {p : Pending} {b : UInt8} (rest : List UInt8)
    (range : p.low ≤ b.toNat ∧ b.toNat ≤ p.high) (last : p.missing ≤ 1) :
    decodeFrom (some p) (b :: rest) =
      (decodeFrom none rest).map (Char.ofNat (p.bits * 64 + (b.toNat - 0x80)) :: ·) := by
  rw [decodeFrom, if_pos range, if_pos last]

theorem toNat_byte {x : Nat} (h : x < 256) : (UInt8.ofNat x).toNat = x :=
  UInt8.toNat_ofNat_of_lt' h

theorem decodeFrom_encodeChar (c : Char) (rest : List UInt8) :
    decodeFrom none (encodeChar c ++ rest) = (decodeFrom none rest).map (c :: ·) := by
  have valid : c.toNat < 0xD800 ∨ 0xDFFF < c.toNat ∧ c.toNat < 0x110000 := c.valid
  have back : Char.ofNat c.toNat = c := Char.ofNat_toNat c
  unfold encodeChar
  generalize c.toNat = n at valid back
  subst back
  dsimp only
  have h₁ := toNat_byte (x := 0x80 + n / 4096 % 64) (by omega)
  have h₂ := toNat_byte (x := 0x80 + n / 64 % 64) (by omega)
  have h₃ := toNat_byte (x := 0x80 + n % 64) (by omega)
  -- One case for each length: the first byte announces it, and the value that is
  -- added up from all bytes is n again.
  split_ifs with one two three
  · rw [List.singleton_append, decodeFrom, toNat_byte (by omega), if_pos one]
  · have h₀ := toNat_byte (x := 0xC0 + n / 64) (by omega)
    obtain ⟨p, hp⟩ := exists_ofLead? (b := UInt8.ofNat (0xC0 + n / 64)) (by omega) (by omega)
    obtain ⟨missing, -, -, bits, range⟩ | h | h := ofLead?_eq_some hp
    · have value : (0xC0 + n / 64 - 0xC0) * 64 + (0x80 + n % 64 - 0x80) = n := by omega
      rw [List.cons_append, List.singleton_append, decodeFrom_lead _ hp,
        decodeFrom_last _ ((range _).2 (by omega)) (by omega), h₃, bits, h₀, value]
    · omega
    · omega
  · have h₀ := toNat_byte (x := 0xE0 + n / 4096) (by omega)
    obtain ⟨p, hp⟩ := exists_ofLead? (b := UInt8.ofNat (0xE0 + n / 4096)) (by omega) (by omega)
    obtain h | ⟨missing, -, -, bits, range⟩ | h := ofLead?_eq_some hp
    · omega
    · have value : ((0xE0 + n / 4096 - 0xE0) * 64 + (0x80 + n / 64 % 64 - 0x80)) * 64 +
          (0x80 + n % 64 - 0x80) = n := by omega
      rw [List.cons_append, List.cons_append, List.singleton_append,
        decodeFrom_lead _ hp, decodeFrom_inner _ ((range _).2 (by omega)) (by omega),
        decodeFrom_last _ (by dsimp only; omega) (by dsimp only; omega), h₂, h₃, bits, h₀,
          value]
    · omega
  · have h₀ := toNat_byte (x := 0xF0 + n / 262144) (by omega)
    obtain ⟨p, hp⟩ := exists_ofLead? (b := UInt8.ofNat (0xF0 + n / 262144)) (by omega) (by omega)
    obtain h | h | ⟨missing, -, -, bits, range⟩ := ofLead?_eq_some hp
    · omega
    · omega
    · have value : (((0xF0 + n / 262144 - 0xF0) * 64 + (0x80 + n / 4096 % 64 - 0x80)) * 64 +
          (0x80 + n / 64 % 64 - 0x80)) * 64 + (0x80 + n % 64 - 0x80) = n := by omega
      rw [List.cons_append, List.cons_append, List.cons_append, List.singleton_append,
        decodeFrom_lead _ hp, decodeFrom_inner _ ((range _).2 (by omega)) (by omega),
        decodeFrom_inner _ (by dsimp only; omega) (by dsimp only; omega),
        decodeFrom_last _ (by dsimp only; omega) (by dsimp only; omega), h₁, h₂, h₃, bits, h₀,
          value]

@[simp] theorem decode_encode (s : List Char) : decode (encode s) = .ok s := by
  unfold decode
  induction s with
  | nil => rfl
  | cons c s ih => rw [encode_cons, decodeFrom_encodeChar, ih]; rfl

theorem decodeFrom_some_eq_ok {p : Pending} {bytes : List UInt8} {s : List Char}
    (h : decodeFrom (some p) bytes = .ok s) :
    ∃ b rest, bytes = b :: rest ∧ p.low ≤ b.toNat ∧ b.toNat ≤ p.high := by
  cases bytes with
  | nil => cases h
  | cons b rest =>
    refine ⟨b, rest, rfl, ?_⟩
    by_contra range
    rw [decodeFrom, if_neg range] at h
    cases h

theorem encodeChar_two {b b₁ : UInt8} (low : 0xC2 ≤ b.toNat) (high : b.toNat < 0xE0)
    (r₁ : 0x80 ≤ b₁.toNat ∧ b₁.toNat ≤ 0xBF) :
    encodeChar (Char.ofNat ((b.toNat - 0xC0) * 64 + (b₁.toNat - 0x80))) = [b, b₁] := by
  generalize hn : (b.toNat - 0xC0) * 64 + (b₁.toNat - 0x80) = n
  have e₀ : 0xC0 + n / 64 = b.toNat := by omega
  have e₁ : 0x80 + n % 64 = b₁.toNat := by omega
  rw [encodeChar, toNat_ofNat_of_valid (Or.inl (by omega)), if_neg (by omega),
    if_pos (by omega), e₀, e₁, UInt8.ofNat_toNat, UInt8.ofNat_toNat]

theorem encodeChar_three {b b₁ b₂ : UInt8} {m : Nat} (low : 0xE0 ≤ b.toNat)
    (hm : (b.toNat - 0xE0) * 64 + (b₁.toNat - 0x80) = m)
    (valid : 0x20 ≤ m ∧ (m < 0x360 ∨ 0x37F < m)) (high : b.toNat < 0xF0)
    (r₁ : 0x80 ≤ b₁.toNat ∧ b₁.toNat ≤ 0xBF) (r₂ : 0x80 ≤ b₂.toNat ∧ b₂.toNat ≤ 0xBF) :
    encodeChar (Char.ofNat (m * 64 + (b₂.toNat - 0x80))) = [b, b₁, b₂] := by
  generalize hn : m * 64 + (b₂.toNat - 0x80) = n
  have e₀ : 0xE0 + n / 4096 = b.toNat := by omega
  have e₁ : 0x80 + n / 64 % 64 = b₁.toNat := by omega
  have e₂ : 0x80 + n % 64 = b₂.toNat := by omega
  have hv : n.isValidChar := by unfold Nat.isValidChar; omega
  rw [encodeChar, toNat_ofNat_of_valid hv, if_neg (by omega), if_neg (by omega),
    if_pos (by omega), e₀, e₁, e₂, UInt8.ofNat_toNat, UInt8.ofNat_toNat, UInt8.ofNat_toNat]

theorem encodeChar_four {b b₁ b₂ b₃ : UInt8} {m : Nat} (low : 0xF0 ≤ b.toNat)
    (hm : (b.toNat - 0xF0) * 64 + (b₁.toNat - 0x80) = m) (valid : 0x10 ≤ m ∧ m < 0x110)
    (r₁ : 0x80 ≤ b₁.toNat ∧ b₁.toNat ≤ 0xBF) (r₂ : 0x80 ≤ b₂.toNat ∧ b₂.toNat ≤ 0xBF)
    (r₃ : 0x80 ≤ b₃.toNat ∧ b₃.toNat ≤ 0xBF) :
    encodeChar (Char.ofNat ((m * 64 + (b₂.toNat - 0x80)) * 64 + (b₃.toNat - 0x80))) =
      [b, b₁, b₂, b₃] := by
  generalize hn : (m * 64 + (b₂.toNat - 0x80)) * 64 + (b₃.toNat - 0x80) = n
  have e₀ : 0xF0 + n / 262144 = b.toNat := by omega
  have e₁ : 0x80 + n / 4096 % 64 = b₁.toNat := by omega
  have e₂ : 0x80 + n / 64 % 64 = b₂.toNat := by omega
  have e₃ : 0x80 + n % 64 = b₃.toNat := by omega
  rw [encodeChar, toNat_ofNat_of_valid (Or.inr ⟨by omega, by omega⟩), if_neg (by omega),
    if_neg (by omega), if_neg (by omega), e₀, e₁, e₂, e₃, UInt8.ofNat_toNat,
    UInt8.ofNat_toNat, UInt8.ofNat_toNat, UInt8.ofNat_toNat]

theorem decodeFrom_cons_eq_ok {b : UInt8} {rest : List UInt8} {s : List Char}
    (h : decodeFrom none (b :: rest) = .ok s) :
    ∃ c more t, b :: rest = encodeChar c ++ more ∧ decodeFrom none more = .ok t ∧ s = c :: t := by
  by_cases one : b.toNat < 0x80
  · rw [decodeFrom, if_pos one] at h
    obtain ⟨t, ht, rfl⟩ := map_eq_ok_iff.1 h
    refine ⟨Char.ofNat b.toNat, rest, t, ?_, ht, rfl⟩
    rw [encodeChar, toNat_ofNat_of_valid (Or.inl (by omega)), if_pos one, UInt8.ofNat_toNat]
    rfl
  cases hp : Pending.ofLead? b.toNat with
  | none =>
    rw [decodeFrom, if_neg one, hp] at h
    cases h
  | some p =>
    rw [decodeFrom_lead rest hp] at h
    obtain ⟨b₁, rest, rfl, r₁⟩ := decodeFrom_some_eq_ok h
    obtain ⟨missing, low, high, bits, range⟩ | ⟨missing, low, high, bits, range⟩ |
      ⟨missing, low, high, bits, range⟩ := ofLead?_eq_some hp
    · rw [decodeFrom_last _ r₁ (by omega)] at h
      obtain ⟨t, ht, rfl⟩ := map_eq_ok_iff.1 h
      refine ⟨_, rest, t, ?_, ht, rfl⟩
      rw [bits, encodeChar_two low high ((range _).1 r₁)]
      rfl
    · obtain ⟨l₁, u₁, valid⟩ := (range _).1 r₁
      rw [decodeFrom_inner _ r₁ (by omega)] at h
      obtain ⟨b₂, rest, rfl, r₂⟩ := decodeFrom_some_eq_ok h
      rw [decodeFrom_last _ r₂ (by dsimp only; omega)] at h
      obtain ⟨t, ht, rfl⟩ := map_eq_ok_iff.1 h
      refine ⟨_, rest, t, ?_, ht, rfl⟩
      rw [bits] at valid ⊢
      rw [encodeChar_three low rfl valid high ⟨l₁, u₁⟩ r₂]
      rfl
    · obtain ⟨l₁, u₁, valid⟩ := (range _).1 r₁
      rw [decodeFrom_inner _ r₁ (by omega)] at h
      obtain ⟨b₂, rest, rfl, r₂⟩ := decodeFrom_some_eq_ok h
      rw [decodeFrom_inner _ r₂ (by dsimp only; omega)] at h
      obtain ⟨b₃, rest, rfl, r₃⟩ := decodeFrom_some_eq_ok h
      rw [decodeFrom_last _ r₃ (by dsimp only; omega)] at h
      obtain ⟨t, ht, rfl⟩ := map_eq_ok_iff.1 h
      refine ⟨_, rest, t, ?_, ht, rfl⟩
      rw [bits] at valid ⊢
      rw [encodeChar_four low rfl valid ⟨l₁, u₁⟩ r₂ r₃]
      rfl

theorem eq_encode_of_decode {bytes : List UInt8} {s : List Char} (h : decode bytes = .ok s) :
    bytes = encode s := by
  unfold decode at h
  induction s generalizing bytes with
  | nil =>
    cases bytes with
    | nil => rfl
    | cons b rest =>
      obtain ⟨c, more, t, -, -, hs⟩ := decodeFrom_cons_eq_ok h
      cases hs
  | cons c s ih =>
    cases bytes with
    | nil => cases h
    | cons b rest =>
      obtain ⟨d, more, t, hb, ht, hs⟩ := decodeFrom_cons_eq_ok h
      cases hs
      rw [hb, ih ht, encode_cons]

theorem decode_eq_ok_iff {bytes : List UInt8} {s : List Char} :
    decode bytes = .ok s ↔ bytes = encode s :=
  ⟨eq_encode_of_decode, fun h => h ▸ decode_encode s⟩

def IsContinuation (b : UInt8) : Prop := 0x80 ≤ b.toNat ∧ b.toNat < 0xC0

/-- A character begins with a byte that no other one has inside. -/
theorem exists_encodeChar_eq (c : Char) : ∃ b rest, encodeChar c = b :: rest ∧
    ¬ IsContinuation b ∧ ∀ x ∈ rest, IsContinuation x := by
  have valid : c.toNat < 0xD800 ∨ 0xDFFF < c.toNat ∧ c.toNat < 0x110000 := c.valid
  have first {n : Nat} (small : n < 256) (h : n < 0x80 ∨ 0xC0 ≤ n) :
      ¬ IsContinuation (UInt8.ofNat n) := by
    rw [IsContinuation, toNat_byte small]
    omega
  have inside (n : Nat) : IsContinuation (UInt8.ofNat (0x80 + n % 64)) := by
    rw [IsContinuation, toNat_byte (by omega)]
    omega
  unfold encodeChar
  dsimp only
  split_ifs with one two three
  · exact ⟨_, _, rfl, first (by omega) (by omega), List.forall_mem_nil _⟩
  · exact ⟨_, _, rfl, first (by omega) (by omega), List.forall_mem_singleton.2 (inside _)⟩
  · exact ⟨_, _, rfl, first (by omega) (by omega), List.forall_mem_cons.2 ⟨inside _,
      List.forall_mem_singleton.2 (inside _)⟩⟩
  · exact ⟨_, _, rfl, first (by omega) (by omega), List.forall_mem_cons.2 ⟨inside _,
      List.forall_mem_cons.2 ⟨inside _, List.forall_mem_singleton.2 (inside _)⟩⟩⟩

/-- The bytes of a text can be cut in front of every byte that begins a character. -/
theorem exists_of_encode_eq_append {s : List Char} {front back : List UInt8}
    (h : encode s = front ++ back) (start : ∀ b ∈ back.head?, ¬ IsContinuation b) :
    ∃ s₁ s₂, s = s₁ ++ s₂ ∧ front = encode s₁ ∧ back = encode s₂ := by
  induction s generalizing front with
  | nil =>
    obtain ⟨rfl, rfl⟩ := List.append_eq_nil_iff.1 h.symm
    exact ⟨[], [], rfl, rfl, rfl⟩
  | cons c s ih =>
    rw [encode_cons, List.append_eq_append_iff] at h
    rcases h with ⟨front', rfl, hs⟩ | ⟨cut, hc, rfl⟩
    · obtain ⟨s₁, s₂, rfl, rfl, rfl⟩ := ih hs
      exact ⟨c :: s₁, s₂, rfl, rfl, rfl⟩
    · -- The cut is inside the first character, and so at one of its ends.
      cases cut with
      | nil =>
        rw [List.append_nil] at hc
        exact ⟨[c], s, rfl, by simp [hc], rfl⟩
      | cons b cut =>
        cases front with
        | nil => exact ⟨[], c :: s, rfl, rfl, by rw [encode_cons, hc]; rfl⟩
        | cons a front =>
          obtain ⟨_, rest, he, -, inside⟩ := exists_encodeChar_eq c
          rw [he, List.cons_append, List.cons.injEq] at hc
          exact absurd (inside b (by simp [hc.2])) (start b rfl)

theorem encode_eq_append_encodeChar_iff {s : List Char} {c : Char} {bytes : List UInt8} :
    encode s = encodeChar c ++ bytes ↔ ∃ t, s = c :: t ∧ encode t = bytes := by
  rw [eq_comm, ← decode_eq_ok_iff, decode, decodeFrom_encodeChar, map_eq_ok_iff]
  constructor
  · rintro ⟨t, ht, rfl⟩
    exact ⟨t, rfl, (decode_eq_ok_iff.1 ht).symm⟩
  · rintro ⟨t, rfl, rfl⟩
    exact ⟨t, decode_encode t, rfl⟩

end Utf8
end MetricPaths
