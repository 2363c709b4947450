import MetricPaths.Json.Reader
import MetricPaths.Json.Writer
import Mathlib.Tactic.SplitIfs

/-! JSON text is read back. What is made of texts alone is written in printable characters of
ASCII, whatever characters the texts hold, and is the only value that the written text spells. -/
namespace MetricPaths
namespace Json

theorem hexValue?_hexDigit {n : Nat} (h : n < 16) : hexValue? (Quoted.hexDigit n) = some n := by
  revert n
  decide

theorem hex_four (n : Nat) : Quoted.hex 4 n = [Quoted.hexDigit (n / 4096 % 16),
    Quoted.hexDigit (n / 256 % 16), Quoted.hexDigit (n / 16 % 16), Quoted.hexDigit (n % 16)] := by
  simp [Quoted.hex, Nat.div_div_eq_div_mul]

theorem unit?_hex {n : Nat} (h : n < 0x10000) (rest : List Char) :
    unit? (Quoted.hex 4 n ++ rest) = some (n, rest) := by
  have value : ((n / 4096 % 16 * 16 + n / 256 % 16) * 16 + n / 16 % 16) * 16 + n % 16 = n := by omega
  rw [hex_four]
  simp only [List.cons_append, List.nil_append, unit?, hexValue?_hexDigit (Nat.mod_lt _ (by decide)),
    Option.bind_eq_bind, Option.bind_some, value]

theorem stringTail?_unit {n u : Nat} (rest : List Char) (h : u < 0x10000)
    (whole : ¬ (0xD800 ≤ u ∧ u < 0xDC00)) :
    stringTail? (n + 1) (unitEscape u ++ rest) =
      (stringTail? n rest).map fun r => (Char.ofNat u :: r.1, r.2) := by
  have notHigh : (decide (0xD800 ≤ u) && decide (u < 0xDC00)) = false := by simpa using whole
  rw [unitEscape, List.cons_append, List.cons_append, stringTail?, unit?_hex h]
  simp only [Option.bind_eq_bind, Option.bind_some, notHigh]
  cases stringTail? n rest <;> rfl

theorem stringTail?_pair {n high low : Nat} (rest : List Char)
    (hh : 0xD800 ≤ high ∧ high < 0xDC00) (hl : 0xDC00 ≤ low ∧ low < 0xE000) :
    stringTail? (n + 1) (unitEscape high ++ unitEscape low ++ rest) =
      (stringTail? n rest).map fun r =>
        (Char.ofNat (0x10000 + (high - 0xD800) * 0x400 + (low - 0xDC00)) :: r.1, r.2) := by
  have isHigh : (decide (0xD800 ≤ high) && decide (high < 0xDC00)) = true := by simpa using hh
  have isLow : (decide (0xDC00 ≤ low) && decide (low < 0xE000)) = true := by simpa using hl
  rw [unitEscape, unitEscape, List.append_assoc, List.cons_append, List.cons_append, stringTail?,
    unit?_hex (by omega)]
  simp only [Option.bind_eq_bind, Option.bind_some, isHigh, List.cons_append,
    unit?_hex (show low < 0x10000 by omega), isLow, if_true]
  cases stringTail? n rest <;> rfl

theorem stringTail?_short {e c : Char} (n : Nat) (rest : List Char) (he : e ≠ 'u')
    (h : shortEscape? e = some c) :
    stringTail? (n + 1) ('\\' :: e :: rest) =
      (stringTail? n rest).map fun r => (c :: r.1, r.2) := by
  rw [stringTail?]
  · rw [h]
    cases stringTail? n rest <;> rfl
  · exact he

theorem stringTail?_plain {c : Char} (n : Nat) (rest : List Char) (hq : c ≠ '"') (hb : c ≠ '\\')
    (h : ' ' ≤ c) :
    stringTail? (n + 1) (c :: rest) = (stringTail? n rest).map fun r => (c :: r.1, r.2) := by
  rw [stringTail?]
  · rw [if_neg (Char.not_lt.2 h)]
    cases stringTail? n rest <;> rfl
  · exact hq
  · exact fun _ hc _ => hb hc
  · exact fun _ _ hc _ => hb hc

/-- A character is read as it was written, whatever comes behind it. -/
theorem stringTail?_charText (c : Char) (n : Nat) (rest : List Char) :
    stringTail? (n + 1) (charText c ++ rest) =
      (stringTail? n rest).map fun r => (c :: r.1, r.2) := by
  have valid : c.toNat < 0xD800 ∨ 0xDFFF < c.toNat ∧ c.toNat < 0x110000 := c.valid
  have back {k : Nat} (h : c.toNat = k) : Char.ofNat k = c := by rw [← h, Char.ofNat_toNat]
  unfold charText
  split_ifs with quote slash newline feed tab backspace page printable small
  · subst quote
    exact stringTail?_short n rest (by decide) rfl
  · subst slash
    exact stringTail?_short n rest (by decide) rfl
  · subst newline
    exact stringTail?_short n rest (by decide) rfl
  · subst feed
    exact stringTail?_short n rest (by decide) rfl
  · subst tab
    exact stringTail?_short n rest (by decide) rfl
  · exact stringTail?_short n rest (by decide) (congrArg some (back backspace))
  · exact stringTail?_short n rest (by decide) (congrArg some (back page))
  · rw [Bool.and_eq_true, decide_eq_true_iff] at printable
    exact stringTail?_plain n rest quote slash printable.1
  · rw [stringTail?_unit rest small (by omega), Char.ofNat_toNat]
  · have hh : 0xD800 ≤ 0xD800 + (c.toNat - 0x10000) / 0x400 ∧
        0xD800 + (c.toNat - 0x10000) / 0x400 < 0xDC00 := by omega
    have hl : 0xDC00 ≤ 0xDC00 + (c.toNat - 0x10000) % 0x400 ∧
        0xDC00 + (c.toNat - 0x10000) % 0x400 < 0xE000 := by omega
    have sum : 0x10000 + (0xD800 + (c.toNat - 0x10000) / 0x400 - 0xD800) * 0x400 +
        (0xDC00 + (c.toNat - 0x10000) % 0x400 - 0xDC00) = c.toNat := by omega
    rw [stringTail?_pair rest hh hl, sum, Char.ofNat_toNat]

theorem charText_ne_nil (c : Char) : charText c ≠ [] := by
  simp only [charText, unitEscape]
  split_ifs <;> simp

theorem length_le_flatMap_charText (s : List Char) : s.length ≤ (s.flatMap charText).length := by
  induction s with
  | nil => exact Nat.le_refl 0
  | cons c s ih =>
    have := List.length_pos_iff.2 (charText_ne_nil c)
    rw [List.flatMap_cons, List.length_append, List.length_cons]
    omega

theorem stringTail?_text (s rest : List Char) {n : Nat} (h : s.length < n) :
    stringTail? n (s.flatMap charText ++ '"' :: rest) = some (s, rest) := by
  induction s generalizing n with
  | nil =>
    obtain ⟨k, rfl⟩ : ∃ k, n = k + 1 := ⟨n - 1, by rw [List.length_nil] at h; omega⟩
    rfl
  | cons c s ih =>
    rw [List.length_cons] at h
    obtain ⟨k, rfl⟩ : ∃ k, n = k + 1 := ⟨n - 1, by omega⟩
    rw [List.flatMap_cons, List.append_assoc, stringTail?_charText, ih (by omega)]
    rfl

mutual

def isTextual : Json → Bool
  | .str _ => true
  | .arr items => areTextual items
  | .obj members => membersAreTextual members
  | _ => false

def areTextual : List Json → Bool
  | [] => true
  | j :: rest => j.isTextual && areTextual rest

def membersAreTextual : List (String × Json) → Bool
  | [] => true
  | (_, j) :: rest => j.isTextual && membersAreTextual rest

end

theorem separated_cons_cons (one next : List Char) (rest : List (List Char)) :
    separated (one :: next :: rest) = one ++ ',' :: ' ' :: separated (next :: rest) := rfl

theorem value?_space (n : Nat) (s : List Char) : value? n (' ' :: s) = value? n s := by
  cases n <;> rfl

theorem items?_space (n : Nat) (s : List Char) : items? n (' ' :: s) = items? n s := by
  cases n with
  | zero => rfl
  | succ n => rw [items?, items?, value?_space]

theorem members?_space (n : Nat) (s : List Char) : members? n (' ' :: s) = members? n s := by
  cases n <;> rfl

theorem exists_chars_eq {j : Json} (h : j.isTextual) :
    ∃ c tail, chars j = c :: tail ∧ (c = '"' ∨ c = '[' ∨ c = '\x7b') := by
  cases j with
  | str s => exact ⟨_, _, rfl, .inl rfl⟩
  | arr items => exact ⟨_, _, rfl, .inr (.inl rfl)⟩
  | obj members => exact ⟨_, _, rfl, .inr (.inr rfl)⟩
  | null | bool | int | float => cases h

theorem value?_quote (n : Nat) (s : List Char) : value? (n + 1) ('"' :: s) = (do
    let (text, rest) ← stringTail? (s.length + 1) s
    some (.str (String.ofList text), rest)) := rfl

theorem stringTail?_stringText (s rest : List Char) :
    stringTail? ((s.flatMap charText ++ '"' :: rest).length + 1)
      (s.flatMap charText ++ '"' :: rest) = some (s, rest) := by
  apply stringTail?_text
  have := length_le_flatMap_charText s
  rw [List.length_append]
  omega

theorem stringText_append (s rest : List Char) :
    stringText s ++ rest = '"' :: (s.flatMap charText ++ '"' :: rest) := by
  simp [stringText]

theorem value?_items {c : Char} (n : Nat) (tail : List Char)
    (hc : c = '"' ∨ c = '[' ∨ c = '\x7b') :
    value? (n + 1) ('[' :: c :: tail) = (do
      let (items, rest) ← items? n (c :: tail)
      some (.arr items, rest)) := by
  rcases hc with rfl | rfl | rfl <;> rfl

theorem value?_members (n : Nat) (tail : List Char) :
    value? (n + 1) ('\x7b' :: '"' :: tail) = (do
      let (members, rest) ← members? n ('"' :: tail)
      some (.obj members, rest)) := rfl

theorem items?_of_value? {n : Nat} {s rest : List Char} {j : Json}
    (h : value? n s = some (j, rest)) : items? (n + 1) s =
      match skipSpace rest with
      | ',' :: rest => do
        let (items, rest) ← items? n rest
        some (j :: items, rest)
      | ']' :: rest => some ([j], rest)
      | _ => none := by
  rw [items?, h]
  rfl

theorem members?_of_value? {n : Nat} {name s rest : List Char} {j : Json}
    (h : value? n s = some (j, rest)) :
    members? (n + 1) (stringText name ++ ':' :: ' ' :: s) =
      match skipSpace rest with
      | ',' :: rest => do
        let (members, rest) ← members? n rest
        some ((String.ofList name, j) :: members, rest)
      | '\x7d' :: rest => some ([(String.ofList name, j)], rest)
      | _ => none := by
  have text := stringTail?_stringText name (':' :: ' ' :: s)
  have skipped : skipSpace ('"' :: (name.flatMap charText ++ '"' :: ':' :: ' ' :: s)) =
    '"' :: (name.flatMap charText ++ '"' :: ':' :: ' ' :: s) := rfl
  rw [stringText_append, members?]
  simp only [skipped, text, Option.bind_eq_bind, Option.bind_some]
  have colon : skipSpace (':' :: ' ' :: s) = ':' :: ' ' :: s := rfl
  rw [colon]
  simp only [value?_space, h]
  rfl

theorem exists_separated_eq {j : Json} (items : List Json) (h : j.isTextual) :
    ∃ c tail, separated (itemChars (j :: items)) = c :: tail ∧
      (c = '"' ∨ c = '[' ∨ c = '\x7b') := by
  obtain ⟨c, tail, hj, hc⟩ := exists_chars_eq h
  cases items with
  | nil => exact ⟨c, tail, hj, hc⟩
  | cons next rest =>
    refine ⟨c, tail ++ ',' :: ' ' :: separated (itemChars (next :: rest)), ?_, hc⟩
    rw [itemChars, itemChars, separated_cons_cons, hj, List.cons_append]

theorem exists_separated_memberChars_eq (name : String) (j : Json) (members : List (String × Json)) :
    ∃ tail, separated (memberChars ((name, j) :: members)) = '"' :: tail := by
  cases members with
  | nil => exact ⟨_, rfl⟩
  | cons next rest => exact ⟨_, rfl⟩

theorem length_lt_chars_arr (items : List Json) :
    (separated (itemChars items)).length + 1 < (chars (.arr items)).length := by
  rw [chars, List.length_append, List.length_cons]
  exact Nat.lt_succ_self _

theorem length_lt_chars_obj (members : List (String × Json)) :
    (separated (memberChars members)).length + 1 < (chars (.obj members)).length := by
  rw [chars, List.length_append, List.length_cons]
  exact Nat.lt_succ_self _

mutual

/-- A value is read up to the end of its text. -/
theorem value?_chars (j : Json) (h : j.isTextual) (rest : List Char) {n : Nat}
    (hn : (chars j).length ≤ n) : value? n (chars j ++ rest) = some (j, rest) := by
  match n, j with
  | 0, j =>
    obtain ⟨c, tail, start, -⟩ := exists_chars_eq h
    rw [start] at hn
    cases hn
  | n + 1, .str s =>
    rw [chars, stringText_append, value?_quote, stringTail?_stringText]
    simp
  | n + 1, .arr [] => rfl
  | n + 1, .arr (j :: items) =>
    obtain ⟨c, tail, start, hc⟩ := exists_separated_eq items (Bool.and_eq_true_iff.1 h).1
    have short := length_lt_chars_arr (j :: items)
    have read := items?_itemChars j items h rest (n := n) (by omega)
    rw [start, List.cons_append] at read
    rw [chars, start, List.append_assoc, List.cons_append, List.cons_append,
      value?_items n _ hc, List.singleton_append, read]
    rfl
  | n + 1, .obj [] => rfl
  | n + 1, .obj ((name, j) :: members) =>
    obtain ⟨tail, start⟩ := exists_separated_memberChars_eq name j members
    have short := length_lt_chars_obj ((name, j) :: members)
    have read := members?_memberChars name j members h rest (n := n) (by omega)
    rw [start, List.cons_append] at read
    rw [chars, start, List.append_assoc, List.cons_append, List.cons_append, value?_members,
      List.singleton_append, read]
    rfl

theorem items?_itemChars (j : Json) (items : List Json) (h : areTextual (j :: items))
    (rest : List Char) {n : Nat} (hn : (separated (itemChars (j :: items))).length < n) :
    items? n (separated (itemChars (j :: items)) ++ ']' :: rest) = some (j :: items, rest) := by
  have first : j.isTextual := (Bool.and_eq_true_iff.1 h).1
  match n, items with
  | 0, _ => exact absurd hn (Nat.not_lt_zero _)
  | n + 1, [] => exact items?_of_value? (value?_chars j first (']' :: rest) (Nat.le_of_lt_succ hn))
  | n + 1, next :: items =>
    rw [itemChars, itemChars, separated_cons_cons, ← itemChars] at hn ⊢
    rw [List.length_append, List.length_cons, List.length_cons] at hn
    have read := items?_itemChars next items (Bool.and_eq_true_iff.1 h).2 rest (n := n) (by omega)
    rw [List.append_assoc, List.cons_append, List.cons_append,
      items?_of_value? (value?_chars j first _ (by omega))]
    change (items? n (' ' :: _)).bind _ = _
    rw [items?_space, read]
    rfl

theorem members?_memberChars (name : String) (j : Json) (members : List (String × Json))
    (h : membersAreTextual ((name, j) :: members)) (rest : List Char) {n : Nat}
    (hn : (separated (memberChars ((name, j) :: members))).length < n) :
    members? n (separated (memberChars ((name, j) :: members)) ++ '\x7d' :: rest) =
      some ((name, j) :: members, rest) := by
  have first : j.isTextual := (Bool.and_eq_true_iff.1 h).1
  match n, members with
  | 0, _ => exact absurd hn (Nat.not_lt_zero _)
  | n + 1, [] =>
    change (stringText name.toList ++ ':' :: ' ' :: chars j).length < n + 1 at hn
    rw [List.length_append, List.length_cons, List.length_cons] at hn
    change members? (n + 1) ((stringText name.toList ++ ':' :: ' ' :: chars j) ++ '\x7d' :: rest) = _
    rw [List.append_assoc, List.cons_append, List.cons_append,
      members?_of_value? (value?_chars j first ('\x7d' :: rest) (by omega)), String.ofList_toList]
    rfl
  | n + 1, (other, next) :: members =>
    rw [memberChars, memberChars, separated_cons_cons, ← memberChars] at hn ⊢
    simp only [List.length_append, List.length_cons] at hn
    have read := members?_memberChars other next members (Bool.and_eq_true_iff.1 h).2 rest (n := n)
      (by omega)
    simp only [List.append_assoc, List.cons_append]
    rw [members?_of_value? (value?_chars j first _ (by omega)), String.ofList_toList]
    change (members? n (' ' :: _)).bind _ = _
    rw [members?_space, read]
    rfl

end

/-- What an ASCII terminal shows, a line feed not among it. -/
def isPlain (c : Char) : Bool := ' ' ≤ c && c ≤ '~'

theorem isPlain_hexDigit {n : Nat} (h : n < 16) : isPlain (Quoted.hexDigit n) := by
  revert n
  decide

theorem isPlain_of_mem_unitEscape {n : Nat} : ∀ c ∈ unitEscape n, isPlain c := by
  have digit (k : Nat) : isPlain (Quoted.hexDigit (k % 16)) := isPlain_hexDigit (Nat.mod_lt _ (by decide))
  simp only [unitEscape, hex_four, List.forall_mem_cons, digit, List.not_mem_nil]
  exact ⟨rfl, rfl, trivial, trivial, trivial, trivial, fun _ => False.elim⟩

theorem isPlain_of_mem_charText (c : Char) : ∀ d ∈ charText c, isPlain d := by
  unfold charText
  split_ifs with _ _ _ _ _ _ _ printable
  · exact List.all_eq_true.1 rfl
  · exact List.all_eq_true.1 rfl
  · exact List.all_eq_true.1 rfl
  · exact List.all_eq_true.1 rfl
  · exact List.all_eq_true.1 rfl
  · exact List.all_eq_true.1 rfl
  · exact List.all_eq_true.1 rfl
  · exact List.forall_mem_singleton.2 printable
  · exact isPlain_of_mem_unitEscape
  · exact List.forall_mem_append.2 ⟨isPlain_of_mem_unitEscape, isPlain_of_mem_unitEscape⟩

theorem isPlain_of_mem_stringText (s : List Char) : ∀ c ∈ stringText s, isPlain c := by
  have inner : ∀ c ∈ s.flatMap charText, isPlain c := fun c hc => by
    obtain ⟨d, -, hd⟩ := List.mem_flatMap.1 hc
    exact isPlain_of_mem_charText d c hd
  rw [stringText, List.cons_append, List.forall_mem_cons, List.forall_mem_append]
  exact ⟨rfl, inner, List.all_eq_true.1 rfl⟩

theorem isPlain_of_mem_separated {parts : List (List Char)}
    (h : ∀ part ∈ parts, ∀ c ∈ part, isPlain c) : ∀ c ∈ separated parts, isPlain c := by
  induction parts with
  | nil => exact fun _ hc => absurd hc List.not_mem_nil
  | cons one rest ih =>
    obtain ⟨first, others⟩ := List.forall_mem_cons.1 h
    cases rest with
    | nil => exact first
    | cons next rest =>
      rw [separated_cons_cons, List.forall_mem_append, List.forall_mem_cons, List.forall_mem_cons]
      exact ⟨first, rfl, rfl, ih others⟩

mutual

theorem isPlain_of_mem_chars : ∀ j : Json, j.isTextual → ∀ c ∈ chars j, isPlain c
  | .str s, _ => isPlain_of_mem_stringText s.toList
  | .arr items, h => by
    rw [chars, List.cons_append, List.forall_mem_cons, List.forall_mem_append]
    exact ⟨rfl, isPlain_of_mem_separated (isPlain_of_mem_itemChars items h), List.all_eq_true.1 rfl⟩
  | .obj members, h => by
    rw [chars, List.cons_append, List.forall_mem_cons, List.forall_mem_append]
    exact ⟨rfl, isPlain_of_mem_separated (isPlain_of_mem_memberChars members h), List.all_eq_true.1 rfl⟩

theorem isPlain_of_mem_itemChars : ∀ items : List Json, areTextual items →
    ∀ part ∈ itemChars items, ∀ c ∈ part, isPlain c
  | [], _ => fun _ h => absurd h List.not_mem_nil
  | j :: items, h => by
    obtain ⟨first, others⟩ := Bool.and_eq_true_iff.1 h
    rw [itemChars, List.forall_mem_cons]
    exact ⟨isPlain_of_mem_chars j first, isPlain_of_mem_itemChars items others⟩

theorem isPlain_of_mem_memberChars : ∀ members : List (String × Json),
    membersAreTextual members → ∀ part ∈ memberChars members, ∀ c ∈ part, isPlain c
  | [], _ => fun _ h => absurd h List.not_mem_nil
  | (name, j) :: members, h => by
    obtain ⟨first, others⟩ := Bool.and_eq_true_iff.1 h
    rw [memberChars, List.forall_mem_cons, List.forall_mem_append, List.forall_mem_cons,
      List.forall_mem_cons]
    exact ⟨⟨isPlain_of_mem_stringText name.toList, rfl, rfl, isPlain_of_mem_chars j first⟩,
      isPlain_of_mem_memberChars members others⟩

end

theorem isPlain_of_mem_write {j : Json} (h : j.isTextual) : ∀ c ∈ j.write.toList, isPlain c := by
  rw [write, String.toList_ofList]
  exact isPlain_of_mem_chars j h

/-- A written text spells the value that it was written for, and no other. -/
theorem read?_write {j : Json} (h : j.isTextual) : read? j.write = some j := by
  have read := value?_chars j h [] (n := 2 * (chars j).length + 2) (by omega)
  rw [List.append_nil] at read
  rw [read?, write, String.toList_ofList, read]
  rfl

end Json
end MetricPaths
