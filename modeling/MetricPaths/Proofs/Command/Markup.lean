import MetricPaths.Command.Markup
import Mathlib.Data.List.TakeWhile
import Mathlib.Data.List.Infix
import Mathlib.Tactic.SplitIfs
import Mathlib.Tactic.Push

/-! What a console shows of a text that it takes for markup. A text without tags and without
escapes is shown as it is, and no other text is. One without tags is shown at least, and one whose
first tag is a closing one is not shown at all. All of this holds within a line as well, since what
stands around a text there does not change what is shown of it. -/
namespace MetricPaths
namespace Markup

def IsTag (inside : List Char) : Prop :=
  (∃ c ∈ inside.head?, startsTag c) ∧ ∀ c ∈ inside, c ≠ '[' ∧ c ≠ ']'

/-- There is a tag in a text, even if a backslash keeps it as text. -/
def HasTag (s : List Char) : Prop :=
  ∃ before inside after, s = before ++ '[' :: inside ++ ']' :: after ∧ IsTag inside

def HasEscape (s : List Char) : Prop := ['\\', '['] <:+: s

/-- The first tag of a text is a closing one, with no backslash in front of it. -/
def ClosesFirst (s : List Char) : Prop :=
  ∃ before name after, s = before ++ '[' :: '/' :: name ++ ']' :: after ∧
    ¬ HasTag before ∧ before.getLast? ≠ some '\\' ∧ ∀ c ∈ name, c ≠ '[' ∧ c ≠ ']'

def HasHandler (s : List Char) : Prop :=
  ∃ before inside after, s = before ++ '[' :: '@' :: inside ++ ']' :: after ∧
    ∀ c ∈ inside, c ≠ '[' ∧ c ≠ ']'

variable {open_ : List (List Char)} {shown s rest inside after : List Char} {k n m : Nat} {c : Char}

/-! ### Tags -/

theorem ne_of_startsTag (h : startsTag c) : c ≠ '[' ∧ c ≠ ']' := by
  constructor <;> rintro rfl <;> revert h <;> decide

theorem takeWhile_inside (h : ∀ c ∈ inside, c ≠ '[' ∧ c ≠ ']') (after : List Char) :
    (inside ++ ']' :: after).takeWhile (fun c => c ≠ ']' && c ≠ '[') = inside := by
  rw [List.takeWhile_append_of_pos, List.takeWhile_cons_of_neg, List.append_nil]
  · decide
  · intro c hc
    simp [h c hc]

theorem tag?_eq_some_iff :
    tag? s = some (inside, after) ↔ s = inside ++ ']' :: after ∧ IsTag inside := by
  constructor
  · intro h
    cases s with
    | nil => cases h
    | cons c s =>
      obtain ⟨left, split⟩ := List.takeWhile_prefix (fun c => c ≠ ']' && c ≠ '[') (l := c :: s)
      have plain : ∀ x ∈ (c :: s).takeWhile fun c => c ≠ ']' && c ≠ '[', x ≠ '[' ∧ x ≠ ']' := by
        intro x hx
        simpa [and_comm] using List.all_eq_true.1 List.all_takeWhile x hx
      simp only [tag?] at h
      split_ifs at h with starts
      have first : ((c :: s).takeWhile fun c => c ≠ ']' && c ≠ '[').head? = some c := by
        simp [ne_of_startsTag starts]
      generalize (c :: s).takeWhile (fun c => c ≠ ']' && c ≠ '[') = found at *
      rw [← split, List.drop_left] at h
      split at h
      · cases h
        exact ⟨split.symm, ⟨c, first, starts⟩, plain⟩
      · cases h
  · rintro ⟨rfl, ⟨c, hc, starts⟩, plain⟩
    obtain ⟨rest, rfl⟩ := List.head?_eq_some_iff.1 hc
    have whole := takeWhile_inside plain after
    simp only [List.cons_append] at whole
    simp only [tag?, List.cons_append, if_pos starts, whole]
    simp

theorem hasTag_cons_iff :
    HasTag (c :: s) ↔ c = '[' ∧ (∃ found, tag? s = some found) ∨ HasTag s := by
  constructor
  · rintro ⟨before, inside, after, split, tag⟩
    cases before with
    | nil =>
      obtain ⟨rfl, rfl⟩ := List.cons.inj split
      exact .inl ⟨rfl, _, tag?_eq_some_iff.2 ⟨rfl, tag⟩⟩
    | cons b before => exact .inr ⟨before, inside, after, (List.cons.inj split).2, tag⟩
  · rintro (⟨rfl, ⟨inside, after⟩, found⟩ | ⟨before, inside, after, rfl, tag⟩)
    · obtain ⟨rfl, tag⟩ := tag?_eq_some_iff.1 found
      exact ⟨[], inside, after, rfl, tag⟩
    · exact ⟨c :: before, inside, after, rfl, tag⟩

theorem HasTag.mem (h : HasTag s) : '[' ∈ s := by
  obtain ⟨before, inside, after, rfl, -⟩ := h
  simp

theorem tag?_append (h : tag? s = some (inside, after)) (rest : List Char) :
    tag? (s ++ rest) = some (inside, after ++ rest) := by
  obtain ⟨rfl, tag⟩ := tag?_eq_some_iff.1 h
  exact tag?_eq_some_iff.2 ⟨by simp, tag⟩

/-- What comes next makes no tag, if it closes no bracket that stands before it. -/
theorem tag?_append_of_none (outside : ∀ before after, rest = before ++ ']' :: after → '[' ∈ before)
    (h : tag? s = none) : tag? (s ++ rest) = none := by
  rw [Option.eq_none_iff_forall_ne_some] at h ⊢
  rintro ⟨inside, after⟩ found
  obtain ⟨split, tag⟩ := tag?_eq_some_iff.1 found
  obtain ⟨more, rfl, hr⟩ | ⟨more, rfl, hm⟩ := List.append_eq_append_iff.1 split
  · exact (tag.2 '[' (List.mem_append_right _ (outside _ _ hr))).1 rfl
  · cases more with
    | nil => cases outside [] after hm.symm
    | cons c more =>
      obtain ⟨rfl, -⟩ := List.cons.inj hm
      exact h _ (tag?_eq_some_iff.2 ⟨rfl, tag⟩)

theorem HasHandler.hasTag (h : HasHandler s) : HasTag s := by
  obtain ⟨before, inside, after, rfl, plain⟩ := h
  exact ⟨before, '@' :: inside, after, rfl, ⟨'@', rfl, rfl⟩, List.forall_mem_cons.2 ⟨by decide, plain⟩⟩

theorem hasHandler_cons_iff : HasHandler (c :: s) ↔
    (c = '[' ∧ ∃ inside after, s = '@' :: inside ++ ']' :: after ∧ ∀ c ∈ inside, c ≠ '[' ∧ c ≠ ']') ∨
      HasHandler s := by
  constructor
  · rintro ⟨before, inside, after, split, plain⟩
    cases before with
    | nil =>
      obtain ⟨rfl, rfl⟩ := List.cons.inj split
      exact .inl ⟨rfl, inside, after, rfl, plain⟩
    | cons b before => exact .inr ⟨before, inside, after, (List.cons.inj split).2, plain⟩
  · rintro (⟨rfl, inside, after, rfl, plain⟩ | ⟨before, inside, after, rfl, plain⟩)
    · exact ⟨[], inside, after, rfl, plain⟩
    · exact ⟨c :: before, inside, after, rfl, plain⟩

theorem HasHandler.of_append_right (h : HasHandler (s ++ rest))
    (free : ∀ c ∈ rest, c ≠ '[' ∧ c ≠ ']') : HasHandler s := by
  obtain ⟨before, inside, after, split, plain⟩ := h
  obtain ⟨more, -, hr⟩ | ⟨more, rfl, hm⟩ := List.append_eq_append_iff.1 split
  · exact absurd rfl (free ']' (by simp [hr])).2
  · cases more with
    | nil =>
      obtain rfl : rest = ']' :: after := hm.symm
      exact absurd rfl (free ']' List.mem_cons_self).2
    | cons c more =>
      obtain ⟨rfl, -⟩ := List.cons.inj hm
      exact ⟨before, inside, more, rfl, plain⟩

/-! ### Escapes -/

theorem hasEscape_cons_iff :
    HasEscape (c :: s) ↔ (c = '\\' ∧ ∃ after, s = '[' :: after) ∨ HasEscape s := by
  rw [HasEscape, List.infix_cons_iff, HasEscape]
  refine or_congr_left ?_
  constructor
  · rintro ⟨after, split⟩
    obtain ⟨rfl, rfl⟩ := List.cons.inj split
    exact ⟨rfl, after, rfl⟩
  · rintro ⟨rfl, after, rfl⟩
    exact ⟨after, rfl⟩

theorem HasEscape.mem (h : HasEscape s) : '[' ∈ s := h.subset (by simp)

theorem unescape_cons (h : ¬ (c = '\\' ∧ ∃ after, s = '[' :: after)) :
    unescape (c :: s) = c :: unescape s := by
  rw [unescape]
  rintro after rfl rfl
  exact h ⟨rfl, after, rfl⟩

theorem length_unescape_le (s : List Char) : (unescape s).length ≤ s.length := by
  induction s using unescape.induct with
  | case1 => exact Nat.le_refl _
  | case2 s ih =>
    simp only [unescape, List.length_cons]
    omega
  | case3 c s other ih =>
    rw [unescape_cons fun ⟨slash, after, bracket⟩ => other after slash bracket]
    exact Nat.succ_le_succ ih

theorem unescape_eq_self_iff : unescape s = s ↔ ¬ HasEscape s := by
  induction s using unescape.induct with
  | case1 => simp [unescape, HasEscape]
  | case2 s ih =>
    refine iff_of_false (fun same => ?_) (not_not_intro (hasEscape_cons_iff.2 (.inl ⟨rfl, s, rfl⟩)))
    have shorter := length_unescape_le s
    have length := congrArg List.length same
    simp only [unescape, List.length_cons] at length
    omega
  | case3 c s other ih =>
    have here : ¬ (c = '\\' ∧ ∃ after, s = '[' :: after) :=
      fun ⟨slash, after, bracket⟩ => other after slash bracket
    rw [unescape_cons here, List.cons_eq_cons, ih, hasEscape_cons_iff, or_iff_right here]
    exact and_iff_right rfl

theorem unescape_append (free : '[' ∉ rest) (s : List Char) :
    unescape (s ++ rest) = unescape s ++ rest := by
  induction s using unescape.induct with
  | case1 => exact unescape_eq_self_iff.2 fun h => free h.mem
  | case2 s ih => simp [unescape, ih]
  | case3 c s other ih =>
    rw [List.cons_append, unescape_cons, unescape_cons, ih, List.cons_append]
    · rintro ⟨slash, after, bracket⟩
      exact other after slash bracket
    · rintro ⟨slash, after, bracket⟩
      cases s with
      | nil =>
        have first : rest = '[' :: after := bracket
        simp [first] at free
      | cons d s => exact other s slash (by rw [(List.cons.inj bracket).1])

/-! ### The text of a line -/

/-- The tags that are open behind a tag; none if it closes nothing. One behind an odd number of
backslashes is text. -/
def behind? (slashes : Nat) (open_ : List (List Char)) (inside : List Char) :
    Option (List (List Char)) :=
  if slashes % 2 = 1 then some open_
  else
    match inside with
    | '/' :: name =>
      if (Classes.strip (name.takeWhile (· ≠ '='))).isEmpty then open_.tail?
      else removeLast (nameOf name) open_
    | inside => some (nameOf inside :: open_)

def tagText (slashes : Nat) (inside : List Char) : List Char :=
  if slashes % 2 = 1 then '[' :: inside ++ [']'] else []

theorem plainFrom_slash : plainFrom open_ shown k (n + 1) ('\\' :: rest) =
    plainFrom open_ shown (k + 1) n rest := rfl

theorem plainFrom_text (slash : c ≠ '\\') (noTag : c = '[' → tag? rest = none) :
    plainFrom open_ shown k (n + 1) (c :: rest) =
      plainFrom open_ (shown ++ List.replicate k '\\' ++ [c]) 0 n rest := by
  by_cases bracket : c = '['
  · subst bracket
    rw [plainFrom.eq_def]
    simp only [noTag rfl]
  · rw [plainFrom]
    · exact slash
    · exact bracket

theorem plainFrom_tag (found : tag? rest = some (inside, after)) :
    plainFrom open_ shown k (n + 1) ('[' :: rest) =
      (behind? k open_ inside).bind fun left => (plainFrom left [] 0 n after).map fun more =>
        unescape shown ++ unescape (List.replicate (k / 2) '\\') ++ tagText k inside ++ more := by
  rw [plainFrom.eq_def]
  simp only [found, behind?, tagText]
  split_ifs with odd
  · simp
  · split
    · next name =>
      by_cases implicit : (Classes.strip (name.takeWhile (· ≠ '='))).isEmpty
      · simp only [if_pos implicit]
        cases open_ <;> simp
      · simp only [if_neg implicit]
        cases removeLast (nameOf name) open_ <;> simp
    · simp

/-- What a text begins with: a backslash, a character that is shown, or a tag. -/
inductive Begins : List Char → Prop
  | slash {rest : List Char} : Begins ('\\' :: rest)
  | text {c : Char} {rest : List Char} :
      c ≠ '\\' → (c = '[' → tag? rest = none) → Begins (c :: rest)
  | tag {rest inside after : List Char} : tag? rest = some (inside, after) → Begins ('[' :: rest)

theorem begins (c : Char) (rest : List Char) : Begins (c :: rest) := by
  by_cases slash : c = '\\'
  · subst slash
    exact .slash
  · cases found : tag? rest with
    | none => exact .text slash fun _ => found
    | some tag =>
      by_cases bracket : c = '['
      · subst bracket
        exact .tag found
      · exact .text slash fun h => absurd h bracket

theorem hasTag_text (noTag : c = '[' → tag? rest = none) : HasTag (c :: rest) ↔ HasTag rest := by
  rw [hasTag_cons_iff, or_iff_right]
  rintro ⟨bracket, found, hf⟩
  rw [noTag bracket] at hf
  cases hf

theorem hasTag_of_tag? (found : tag? rest = some (inside, after)) : HasTag ('[' :: rest) :=
  hasTag_cons_iff.2 (.inl ⟨rfl, _, found⟩)

theorem hasTag_slash : HasTag ('\\' :: rest) ↔ HasTag rest :=
  hasTag_text fun h => absurd h (by decide)

theorem plainFrom_of_not_hasTag (noTag : ¬ HasTag s) (fuel : s.length < n) :
    plainFrom open_ shown k n s = some (unescape (shown ++ List.replicate k '\\' ++ s)) := by
  induction n generalizing shown k s with
  | zero => cases fuel
  | succ n ih =>
    cases s with
    | nil => rw [plainFrom, List.append_nil]
    | cons c rest =>
      have enough : rest.length < n := Nat.lt_of_succ_lt_succ fuel
      cases begins c rest with
      | slash =>
        rw [plainFrom_slash, ih (mt hasTag_slash.2 noTag) enough, List.replicate_succ']
        simp
      | text slash none =>
        rw [plainFrom_text slash none, ih (mt (hasTag_text none).2 noTag) enough]
        simp
      | tag found => exact absurd (hasTag_of_tag? found) noTag

theorem length_tagText (k : Nat) (inside : List Char) :
    (unescape (List.replicate (k / 2) '\\')).length + (tagText k inside).length <
      k + inside.length + 2 := by
  have shorter := length_unescape_le (List.replicate (k / 2) '\\')
  rw [List.length_replicate] at shorter
  rw [tagText]
  split_ifs with odd
  · simp only [List.cons_append, List.length_cons, List.length_append, List.length_nil]
    omega
  · simp only [List.length_nil]
    omega

/-- No text gets longer, and one with a tag gets shorter: the tag is not shown, or the backslash
in front of it is not. -/
theorem length_plainFrom {out : List Char} (h : plainFrom open_ shown k n s = some out) :
    out.length ≤ shown.length + k + s.length ∧
      (HasTag s → out.length < shown.length + k + s.length) := by
  induction n generalizing open_ shown k s out with
  | zero => cases h
  | succ n ih =>
    cases s with
    | nil =>
      rw [plainFrom] at h
      cases h
      have shorter := length_unescape_le (shown ++ List.replicate k '\\')
      rw [List.length_append, List.length_replicate] at shorter
      exact ⟨shorter, fun tag => by cases tag.mem⟩
    | cons c rest =>
      rw [List.length_cons]
      cases begins c rest with
      | slash =>
        rw [plainFrom_slash] at h
        rw [hasTag_slash]
        obtain ⟨le, lt⟩ := ih h
        exact ⟨by omega, fun tag => by have := lt tag; omega⟩
      | text slash none =>
        rw [plainFrom_text slash none] at h
        rw [hasTag_text none]
        obtain ⟨le, lt⟩ := ih h
        simp only [List.length_append, List.length_replicate, List.length_singleton] at le lt
        exact ⟨by omega, fun tag => by have := lt tag; omega⟩
      | @tag _ inside after found =>
        rw [plainFrom_tag found] at h
        obtain ⟨left, -, h⟩ := Option.bind_eq_some_iff.1 h
        obtain ⟨more, hm, rfl⟩ := Option.map_eq_some_iff.1 h
        obtain ⟨rfl, -⟩ := tag?_eq_some_iff.1 found
        have before := length_unescape_le shown
        have tag := length_tagText k inside
        have behind := (ih hm).1
        have lt : (unescape shown ++ unescape (List.replicate (k / 2) '\\') ++ tagText k inside ++
            more).length < shown.length + k + ((inside ++ ']' :: after).length + 1) := by
          simp only [List.length_append, List.length_cons, List.length_nil] at behind ⊢
          omega
        exact ⟨lt.le, fun _ => lt⟩

theorem plainFrom_append (free : ∀ c ∈ rest, c ≠ '[' ∧ c ≠ ']') (fuel : s.length + rest.length < n)
    (fuel' : s.length < m) :
    plainFrom open_ shown k n (s ++ rest) = (plainFrom open_ shown k m s).map (· ++ rest) := by
  have noBracket : '[' ∉ rest := fun h => (free _ h).1 rfl
  have noEnd : ∀ before after, rest = before ++ ']' :: after → '[' ∈ before := by
    rintro before after rfl
    exact absurd rfl (free ']' (by simp)).2
  induction n generalizing open_ shown k m s with
  | zero => cases fuel
  | succ n ih =>
    obtain ⟨m, rfl⟩ := Nat.exists_eq_succ_of_ne_zero (Nat.ne_zero_of_lt fuel')
    cases s with
    | nil =>
      rw [List.nil_append, plainFrom_of_not_hasTag (fun h => noBracket h.mem) (by simpa using fuel),
        unescape_append noBracket, plainFrom]
      rfl
    | cons c s =>
      have enough : s.length + rest.length < n := by
        rw [List.length_cons] at fuel
        omega
      have enough' : s.length < m := Nat.lt_of_succ_lt_succ fuel'
      rw [List.cons_append]
      cases begins c s with
      | slash => exact ih enough enough'
      | text slash none =>
        rw [plainFrom_text slash fun h => tag?_append_of_none noEnd (none h),
          plainFrom_text slash none]
        exact ih enough enough'
      | @tag _ inside after found =>
        have longer : after.length < s.length := by
          obtain ⟨rfl, -⟩ := tag?_eq_some_iff.1 found
          simp only [List.length_append, List.length_cons]
          omega
        rw [plainFrom_tag (tag?_append found rest), plainFrom_tag found, Option.map_bind]
        congr 1
        funext left
        rw [ih (by omega) (by omega : after.length < m)]
        simp [Function.comp_def]

theorem unescape_append_left {before : List Char} (free : '\\' ∉ before) (s : List Char) :
    unescape (before ++ s) = before ++ unescape s := by
  induction before with
  | nil => rfl
  | cons c before ih =>
    rw [List.mem_cons, not_or] at free
    rw [List.cons_append, unescape_cons fun h => free.1 h.1.symm, ih free.2, List.cons_append]

theorem plainFrom_shown {before : List Char} (free : '\\' ∉ before) :
    plainFrom open_ (before ++ shown) k n s = (plainFrom open_ shown k n s).map (before ++ ·) := by
  induction n generalizing open_ shown k s with
  | zero => rfl
  | succ n ih =>
    cases s with
    | nil => simp [plainFrom, unescape_append_left free]
    | cons c rest =>
      cases begins c rest with
      | slash => exact ih
      | text slash none =>
        rw [plainFrom_text slash none, plainFrom_text slash none, ← ih]
        simp
      | tag found =>
        rw [plainFrom_tag found, plainFrom_tag found, unescape_append_left free, Option.map_bind]
        simp [Function.comp_def]

theorem behind?_of_closing (name : List Char) : behind? 0 [] ('/' :: name) = none := by
  rw [behind?, if_neg (by decide)]
  split_ifs <;> rfl

/-- A closing tag that comes first ends it, whatever comes next. -/
theorem plainFrom_of_closing {before name : List Char} (noTag : ¬ HasTag before)
    (slash : (List.replicate k '\\' ++ before).getLast? ≠ some '\\')
    (plain : ∀ c ∈ name, c ≠ '[' ∧ c ≠ ']') (after : List Char) :
    plainFrom [] shown k n (before ++ '[' :: '/' :: name ++ ']' :: after) = none := by
  induction n generalizing shown k before with
  | zero => rfl
  | succ n ih =>
    cases before with
    | nil =>
      have found : tag? ('/' :: name ++ ']' :: after) = some ('/' :: name, after) :=
        tag?_eq_some_iff.2 ⟨rfl, ⟨'/', rfl, rfl⟩, List.forall_mem_cons.2 ⟨by decide, plain⟩⟩
      cases k with
      | zero =>
        rw [List.nil_append, List.cons_append, plainFrom_tag found, behind?_of_closing]
        rfl
      | succ k => simp [List.replicate_succ'] at slash
    | cons c before =>
      rw [List.cons_append, List.cons_append]
      cases begins c before with
      | slash =>
        rw [plainFrom_slash]
        refine ih (mt hasTag_slash.2 noTag) ?_
        rwa [List.replicate_succ', List.append_assoc]
      | text other none =>
        have within : ∀ front rest, '[' :: '/' :: name ++ ']' :: after = front ++ ']' :: rest →
            '[' ∈ front := by
          rintro (_ | ⟨d, front⟩) rest split
          · cases split
          · obtain ⟨rfl, -⟩ := List.cons.inj split
            exact List.mem_cons_self
        rw [List.append_assoc, plainFrom_text other fun h => tag?_append_of_none within (none h),
          ← List.append_assoc]
        refine ih (mt (hasTag_text none).2 noTag) fun last => slash ?_
        cases before with
        | nil => cases last
        | cons d before => simpa using last
      | tag found => exact absurd (hasTag_of_tag? found) noTag

/-! ### Lines -/

section
variable {s : String}

theorem length_toList_lt (s : String) : s.toList.length < s.length + 1 :=
  Nat.lt_succ_of_le (Nat.le_of_eq String.length_toList)

theorem plain?_eq (s : String) :
    plain? s = (plainFrom [] [] 0 (s.length + 1) s.toList).map String.ofList := by
  rw [plain?]
  split_ifs with bracket
  · rfl
  · have free : '[' ∉ s.toList := by simpa using bracket
    rw [plainFrom_of_not_hasTag (mt HasTag.mem free) (length_toList_lt s)]
    simp [unescape_eq_self_iff.2 (mt HasEscape.mem free)]

theorem plain?_of_not_hasTag (noTag : ¬ HasTag s.toList) :
    plain? s = some (String.ofList (unescape s.toList)) := by
  rw [plain?_eq, plainFrom_of_not_hasTag noTag (length_toList_lt s)]
  rfl

/-- Just the texts without tags and without escapes are shown as they are. -/
theorem plain?_eq_self_iff : plain? s = some s ↔ ¬ HasTag s.toList ∧ ¬ HasEscape s.toList := by
  by_cases tag : HasTag s.toList
  · refine iff_of_false (fun same => ?_) fun h => h.1 tag
    rw [plain?_eq] at same
    obtain ⟨out, ho, rfl⟩ := Option.map_eq_some_iff.1 same
    have shorter := (length_plainFrom ho).2 tag
    simp at shorter
  · rw [plain?_of_not_hasTag tag, and_iff_right tag, ← unescape_eq_self_iff, Option.some.injEq,
      ← String.toList_inj, String.toList_ofList]

theorem plain?_of_closesFirst (h : ClosesFirst s.toList) : plain? s = none := by
  obtain ⟨before, name, after, split, noTag, slash, plain⟩ := h
  have bare : (List.replicate 0 '\\' ++ before).getLast? ≠ some '\\' := slash
  rw [plain?_eq, split, plainFrom_of_closing noTag bare plain]
  rfl

theorem plainFrom_tick (n : Nat) (s : List Char) :
    plainFrom [] [] 0 (n + 4) ("[green]✓[/green] ".toList ++ s) =
      (plainFrom [] ([' '] ++ []) 0 n s).map ('✓' :: ·) := by
  have opening : tag? "green]✓[/green] ".toList =
      some ("green".toList, "✓[/green] ".toList) := by decide +kernel
  have closing : tag? "/green] ".toList = some ("/green".toList, [' ']) := by decide +kernel
  have opened : behind? 0 [] "green".toList = some ["green".toList] := by decide +kernel
  have closed : behind? 0 ["green".toList] "/green".toList = some [] := by decide +kernel
  have within : plainFrom ["green".toList] [] 0 (n + 3) ("✓[/green] ".toList ++ s) =
      (plainFrom [] [' '] 0 n s).map ('✓' :: ·) := by
    change plainFrom _ _ _ _ ('✓' :: '[' :: ("/green] ".toList ++ s)) = _
    rw [plainFrom_text (by decide) fun h => absurd h (by decide),
      plainFrom_tag (tag?_append closing s), closed, Option.bind_some, List.singleton_append,
      plainFrom_text (by decide) fun h => absurd h (by decide)]
    rfl
  change plainFrom _ _ _ _ ('[' :: ("green]✓[/green] ".toList ++ s)) = _
  rw [plainFrom_tag (tag?_append opening s), opened, Option.bind_some, within, Option.map_map]
  rfl

/-- Behind a tick in green, and in front of text without brackets, a text is shown as it is shown
by itself. -/
theorem plain?_ticked {rest : String} (free : ∀ c ∈ rest.toList, c ≠ '[' ∧ c ≠ ']') :
    plain? ("[green]✓[/green] " ++ s ++ rest) =
      (plain? s).map fun shown => "✓ " ++ shown ++ rest := by
  have tick : "[green]✓[/green] ".length = 17 := rfl
  have length :
      ("[green]✓[/green] " ++ s ++ rest).length + 1 = s.length + rest.length + 14 + 4 := by
    rw [String.length_append, String.length_append, tick]
    omega
  have fuel : s.toList.length + rest.toList.length < s.length + rest.length + 14 := by
    rw [String.length_toList, String.length_toList]
    omega
  rw [plain?_eq, plain?_eq, String.toList_append, String.toList_append, List.append_assoc, length,
    plainFrom_tick, plainFrom_shown (by decide),
    plainFrom_append free fuel (length_toList_lt s)]
  simp only [Option.map_map]
  congr 1
  funext shown
  apply String.toList_inj.1
  simp

end

end Markup
end MetricPaths
