import Messenger.Json.Error
import Messenger.Text.Numeral

set_option relaxedAutoImplicit false
set_option autoImplicit false

/-!
# Quoted texts in JSON

A text stands between quotes. A quote, a backslash and the control characters below U+0020 are
written as escapes; all other characters stand for themselves. When a text is read, every escape
of the format is understood: two escapes that form a pair of surrogates denote one character, and
a surrogate on its own is refused.

## Main definitions

* `Messenger.Json.quote`: the written form of a text.
* `Messenger.Json.readText`: reads a text behind its opening quote.
* `Messenger.Json.skipText`: passes over a text of which nothing is kept.

## Main results

* `Messenger.Json.readText_quote`: a written text is read back.
-/

namespace Messenger.Json

/-- The letter of the short escape of a control character, if it has one. -/
def shortEscape? (c : Char) : Option Char :=
  if c = '\x08' then some 'b'
  else if c = '\x0c' then some 'f'
  else if c = '\n' then some 'n'
  else if c = '\r' then some 'r'
  else if c = '\t' then some 't'
  else none

/-- The written form of one character inside a text. -/
def escape (c : Char) : List Char :=
  if c = '"' then ['\\', '"']
  else if c = '\\' then ['\\', '\\']
  else if c.toNat < 0x20 then
    match shortEscape? c with
    | some letter => ['\\', letter]
    | none => ['\\', 'u', '0', '0', Text.hexDigit (c.toNat / 16), Text.hexDigit (c.toNat % 16)]
  else [c]

/-- The written form of a text. -/
def quote (s : List Char) : List Char :=
  '"' :: s.flatMap escape ++ ['"']

/-- The character that the letter behind a backslash stands for. -/
def unescape? (letter : Char) : Option Char :=
  match letter with
  | '"' => some '"'
  | '\\' => some '\\'
  | '/' => some '/'
  | 'b' => some '\x08'
  | 'f' => some '\x0c'
  | 'n' => some '\n'
  | 'r' => some '\r'
  | 't' => some '\t'
  | _ => none

/-- The code unit that four digits of base sixteen denote. -/
def unit? (a b c d : Char) : Option Nat :=
  Text.readDigits 16 0 [a, b, c, d]

/-- What is wrong where four digits were expected: the text ends before four bytes of it could
be looked at, or one of them is no digit. -/
def digitsError (s : List Char) : Error :=
  if (String.ofList s).utf8ByteSize < 4 then .eofInText else .invalidEscape

/-- The character of a pair of surrogates. -/
def pairedChar (high low : Nat) : Char :=
  Char.ofNat ((high - 0xD800) * 0x400 + (low - 0xDC00) + 0x10000)

/-- Reads a text behind its opening quote, up to and with the closing one. `acc` holds the
characters already read, the last one first. -/
def readTextFrom (acc : List Char) : List Char → Except Error (List Char × List Char)
  | [] => .error .eofInText
  | '"' :: rest => .ok (acc.reverse, rest)
  | '\\' :: 'u' :: a :: b :: c :: d :: rest =>
    match unit? a b c d with
    | none => .error .invalidEscape
    | some n =>
      if 0xDC00 ≤ n ∧ n ≤ 0xDFFF then .error .loneSurrogate
      else if n < 0xD800 ∨ 0xDFFF < n then readTextFrom (Char.ofNat n :: acc) rest
      else
        match rest with
        | '\\' :: 'u' :: a' :: b' :: c' :: d' :: rest' =>
          match unit? a' b' c' d' with
          | none => .error .invalidEscape
          | some m =>
            if 0xDC00 ≤ m ∧ m ≤ 0xDFFF then readTextFrom (pairedChar n m :: acc) rest'
            else .error .loneSurrogate
        | '\\' :: 'u' :: short => .error (digitsError short)
        | [] | ['\\'] => .error .eofInText
        | _ => .error .unfinishedSurrogatePair
  | '\\' :: 'u' :: short => .error (digitsError short)
  | ['\\'] => .error .eofInText
  | '\\' :: letter :: rest =>
    match unescape? letter with
    | some c => readTextFrom (c :: acc) rest
    | none => .error .invalidEscape
  | c :: rest =>
    if c.toNat < 0x20 then .error .controlCharacter else readTextFrom (c :: acc) rest

/-- Reads a text behind its opening quote, up to and with the closing one. -/
def readText (s : List Char) : Except Error (List Char × List Char) :=
  readTextFrom [] s

/-- Passes over a text behind its opening quote. Escapes must be complete, but surrogates need
no partner. -/
def skipText : List Char → Except Error (List Char)
  | [] => .error .eofInText
  | '"' :: rest => .ok rest
  | '\\' :: 'u' :: a :: b :: c :: d :: rest =>
    match unit? a b c d with
    | none => .error .invalidEscape
    | some _ => skipText rest
  | '\\' :: 'u' :: short => .error (digitsError short)
  | ['\\'] => .error .eofInText
  | '\\' :: letter :: rest =>
    match unescape? letter with
    | some _ => skipText rest
    | none => .error .invalidEscape
  | c :: rest => if c.toNat < 0x20 then .error .controlCharacter else skipText rest

/-- The long escape of a control character denotes it. -/
theorem unit?_hexDigit {n : Nat} (h : n < 0x20) :
    unit? '0' '0' (Text.hexDigit (n / 16)) (Text.hexDigit (n % 16)) = some n := by
  have : ∀ m : Fin 0x20,
      unit? '0' '0' (Text.hexDigit (m.val / 16)) (Text.hexDigit (m.val % 16)) = some m.val := by
    decide
  exact this ⟨n, h⟩

/-- A character that is neither a quote nor a backslash stands for itself or is refused. -/
theorem readTextFrom_cons {c : Char} (h₁ : c ≠ '"') (h₂ : c ≠ '\\') (acc rest : List Char) :
    readTextFrom acc (c :: rest) =
      if c.toNat < 0x20 then .error .controlCharacter else readTextFrom (c :: acc) rest := by
  rw [readTextFrom.eq_def]
  split <;> simp_all

/-- The written form of a character is read as that character.

**Proof sketch.** One case for each form that an escape has. The two characters that are escaped by
themselves and the five with a letter of their own are read back by computation. Any other control
character is written as its code in figures (`unit?_hexDigit`), which is no surrogate, and all
others stand for themselves. -/
theorem readTextFrom_escape (c : Char) (acc rest : List Char) :
    readTextFrom acc (escape c ++ rest) = readTextFrom (c :: acc) rest := by
  unfold escape
  split
  · next h => subst h; rfl
  split
  · next h => subst h; rfl
  split
  · next h =>
    split
    · next letter hl =>
      unfold shortEscape? at hl
      repeat' split at hl
      all_goals first
        | (next hc => cases hl; subst hc; rfl)
        | cases hl
    · show readTextFrom acc ('\\' :: 'u' :: '0' :: '0' :: Text.hexDigit (c.toNat / 16) ::
        Text.hexDigit (c.toNat % 16) :: rest) = _
      rw [readTextFrom, unit?_hexDigit h]
      simp only []
      rw [if_neg (by omega), if_pos (by omega)]
      simp [Char.ofNat_toNat]
  · next h₁ h₂ h₃ =>
    show readTextFrom acc (c :: rest) = _
    rw [readTextFrom_cons h₁ h₂, if_neg h₃]

/-- The written forms of several characters are read as those characters. -/
theorem readTextFrom_flatMap_escape (s acc rest : List Char) :
    readTextFrom acc (s.flatMap escape ++ rest) = readTextFrom (s.reverse ++ acc) rest := by
  induction s generalizing acc with
  | nil => rfl
  | cons c s ih =>
    rw [List.flatMap_cons, List.append_assoc, readTextFrom_escape, ih]
    simp

/-- **Quoting is undone.** A written text is read back, whatever follows it. -/
theorem readText_quote (s rest : List Char) :
    readText (s.flatMap escape ++ '"' :: rest) = .ok (s, rest) := by
  rw [readText, readTextFrom_flatMap_escape, readTextFrom]
  simp

end Messenger.Json
