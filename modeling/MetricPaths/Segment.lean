import MetricPaths.Text.Utf8

/-! Path segments: how a metric name or a label value is written so that no
character of it can be taken for the structure of a path.

Every byte of the value has one disposition. Printable bytes without a role in a
path stand for themselves, the brackets, quotes, comma and backslash get a
backslash in front, and all other bytes become a percent sign and two upper-case
hexadecimal digits. Values and segments are texts of characters that have a UTF-8 form; one with a
lone surrogate in it can be neither written nor read, and is left out. -/
namespace MetricPaths
namespace Segment

inductive Disposition where
  | verbatim
  | percent
  | backslash
deriving Repr, DecidableEq

def Disposition.label : Disposition → String
  | .verbatim => "verbatim"
  | .percent => "percent"
  | .backslash => "backslash"

def percentEncoded : List Char := ['.', '/', '=', '%']

/-- Characters with a role in the layouts that carry tags. -/
def backslashEscaped : List Char := ['(', ')', '{', '}', ',', '\'', '"', '\\']

def disposition (b : UInt8) : Disposition :=
  let c := Char.ofNat b.toNat
  if c ∈ percentEncoded then .percent
  else if c ∈ backslashEscaped then .backslash
  else if '!' ≤ c ∧ c ≤ '~' then .verbatim
  else .percent

def hexDigit (n : Nat) : Char := Char.ofNat (if n < 10 then 48 + n else 55 + n)

def hexValue? (c : Char) : Option Nat :=
  if '0' ≤ c ∧ c ≤ '9' then some (c.toNat - 48)
  else if 'A' ≤ c ∧ c ≤ 'F' then some (c.toNat - 55)
  else if 'a' ≤ c ∧ c ≤ 'f' then some (c.toNat - 87)
  else none

def encodeByte (b : UInt8) : List Char :=
  match disposition b with
  | .verbatim => [Char.ofNat b.toNat]
  | .backslash => ['\\', Char.ofNat b.toNat]
  | .percent => ['%', hexDigit (b.toNat / 16), hexDigit (b.toNat % 16)]

def escape (value : List Char) : List Char := (Utf8.encode value).flatMap encodeByte

@[simp] theorem escape_nil : escape [] = [] := rfl

theorem escape_append (s t : List Char) : escape (s ++ t) = escape s ++ escape t := by
  simp [escape, List.flatMap_append]

/-- Why a segment stands for no value. Positions count characters from zero. -/
inductive Fault where
  | malformedPercent (position : Nat)
  | danglingBackslash (position : Nat)
  | notText (fault : Utf8.Fault)
deriving Repr, DecidableEq

/-- The pieces of a segment: an encoded byte, a character behind a backslash, or
a character that stands for itself. -/
inductive Token where
  | percent (byte : UInt8)
  | quoted (c : Char)
  | plain (c : Char)
deriving Repr, DecidableEq

def Token.bytes : Token → List UInt8
  | .percent b => [b]
  | .quoted c => Utf8.encodeChar c
  | .plain c => Utf8.encodeChar c

/-- Reads pieces from the left; the first piece that cannot be read is blamed. -/
def tokens (position : Nat) : List Char → Except Fault (List Token)
  | [] => .ok []
  | '%' :: rest =>
    match rest with
    | high :: low :: after =>
      match hexValue? high, hexValue? low with
      | some h, some l => (tokens (position + 3) after).map (.percent (UInt8.ofNat (16 * h + l)) :: ·)
      | _, _ => .error (.malformedPercent position)
    | _ => .error (.malformedPercent position)
  | '\\' :: rest =>
    match rest with
    | c :: after => (tokens (position + 2) after).map (.quoted c :: ·)
    | [] => .error (.danglingBackslash position)
  | c :: rest => (tokens (position + 1) rest).map (.plain c :: ·)

/-- The value that a segment stands for. -/
def unescape (segment : List Char) : Except Fault (List Char) :=
  match tokens 0 segment with
  | .error fault => .error fault
  | .ok ts =>
    match Utf8.decode (ts.flatMap Token.bytes) with
    | .ok value => .ok value
    | .error fault => .error (.notText fault)

end Segment
end MetricPaths
