import Messenger.Json.Value
import Messenger.Json.Error
import Messenger.Text.Numeral
import Messenger.Decimal.Shortest

set_option relaxedAutoImplicit false
set_option autoImplicit false

/-!
# Numbers in JSON

A number without fraction and exponent is an integer if it fits a word of 64 bits. Every other
number becomes a double: its digits are gathered into a significand below `2^64`, digits that
would overflow it are dropped (each one before the point raises the exponent by one), and the
significand, as a double, is multiplied or divided by a power of ten. The result is close to the
number, but not always the double nearest to it; an infinite one is refused.

## Main definitions

* `Messenger.Json.readNumber`: reads a number behind its sign.
* `Messenger.Json.skipNumber`: passes over a number of which nothing is kept.
* `Messenger.Json.numberText`: the written form of a double.

## Design

A double is written in the fewest digits, positionally from `1e-5` up to, but not including,
`1e16`.
-/

namespace Messenger.Json

/-- The layout of doubles. -/
def layout : Decimal.Layout := ⟨-5, 16⟩

/-- The written form of a double; what is no number has none of its own. -/
def numberText (x : Float) : List Char :=
  (Decimal.render? layout x).getD ['n', 'u', 'l', 'l']

/-- Digits gathered from the front of a text: the significand, how many digits went into it, and
what is left of the text. -/
structure Gathered where
  significand : Nat
  count : Nat
  rest : List Char

/-- Takes digits into a significand as long as it stays below `2^64`. -/
def gather (significand count : Nat) : List Char → Gathered
  | [] => ⟨significand, count, []⟩
  | c :: rest =>
    match Text.digitValue? 10 c with
    | none => ⟨significand, count, c :: rest⟩
    | some d =>
      if significand * 10 + d < Text.limit64 then gather (significand * 10 + d) (count + 1) rest
      else ⟨significand, count, c :: rest⟩

/-- The largest power of ten that is a double. -/
def greatestPower : Nat := 308

/-- Divides by ten to the power `n`, in steps of the largest power of ten that is a double. -/
def scaleDown (x : Float) (n : Nat) : Float :=
  if n ≤ greatestPower then x / Float.ofScientific 1 false n
  else if x == 0.0 then x
  else scaleDown (x / Float.ofScientific 1 false greatestPower) (n - greatestPower)
termination_by n
decreasing_by simp [greatestPower] at *; omega

/-- The double that a significand and a power of ten denote. -/
def scale (significand : Nat) (exponent : Int) : Except Error Float :=
  let x := Float.ofNat significand
  if exponent < 0 then .ok (scaleDown x (-exponent).toNat)
  else if exponent ≤ greatestPower then
    let y := x * Float.ofScientific 1 false exponent.toNat
    if y.isInf then .error .numberOutOfRange else .ok y
  else if x == 0.0 then .ok x
  else .error .numberOutOfRange

/-- Reads the exponent behind its letter. -/
def readExponent (significand : Nat) (start : Int) (s : List Char) :
    Except Error (Float × List Char) :=
  let (negative, s) := match s with
    | '+' :: rest => (false, rest)
    | '-' :: rest => (true, rest)
    | s => (false, s)
  match s with
  | [] => .error .eofInValue
  | c :: _ =>
    if c.isDigit then
      let power : Nat := (Text.readDigits 10 0 (s.takeWhile Char.isDigit)).getD 0
      let exponent := if negative then start - power else start + power
      match scale significand exponent with
      | .ok x => .ok (x, s.dropWhile Char.isDigit)
      | .error e => .error e
    else .error .invalidNumber

/-- Reads what may follow the last digit of a number that is no integer: an exponent. -/
def readScaled (significand : Nat) (exponent : Int) (s : List Char) :
    Except Error (Float × List Char) :=
  match s with
  | 'e' :: rest | 'E' :: rest => readExponent significand exponent rest
  | s =>
    match scale significand exponent with
    | .ok x => .ok (x, s)
    | .error e => .error e

/-- Reads the digits behind the point. Digits that do not fit the significand are dropped. -/
def readFraction (significand : Nat) (exponent : Int) (s : List Char) :
    Except Error (Float × List Char) :=
  let g := gather significand 0 s
  match g.count, g.rest with
  | 0, [] => .error .eofInValue
  | 0, c :: rest =>
    if c.isDigit then
      readScaled g.significand exponent (rest.dropWhile Char.isDigit)
    else .error .invalidNumber
  | count, rest => readScaled g.significand (exponent - count) (rest.dropWhile Char.isDigit)

/-- The integer of the given absolute value, or the double if it fits no word of 64 bits. Zero
with a sign is a double, since the integer zero has none. -/
def integer (negative : Bool) (n : Nat) : Value :=
  if negative then
    if n = 0 ∨ Text.limit64 < 2 * n then .float (-Float.ofNat n) else .int (-n)
  else .int n

/-- A double with a sign. -/
def signed (negative : Bool) (r : Float × List Char) : Value × List Char :=
  (.float (if negative then -r.1 else r.1), r.2)

/-- Reads what follows the first digits of a number. -/
def readTail (negative : Bool) (significand : Nat) (s : List Char) :
    Except Error (Value × List Char) :=
  match s with
  | '.' :: rest => (readFraction significand 0 rest).map (signed negative)
  | 'e' :: rest | 'E' :: rest => (readExponent significand 0 rest).map (signed negative)
  | s => .ok (integer negative significand, s)

/-- Reads a number behind its sign. -/
def readNumber (negative : Bool) (s : List Char) : Except Error (Value × List Char) :=
  match s with
  | [] => .error .eofInValue
  | '0' :: rest =>
    match rest with
    | c :: _ => if c.isDigit then .error .invalidNumber else readTail negative 0 rest
    | [] => readTail negative 0 rest
  | c :: _ =>
    if c.isDigit then
      let g := gather 0 0 s
      let dropped := g.rest.takeWhile Char.isDigit
      let rest := g.rest.dropWhile Char.isDigit
      if dropped.isEmpty then readTail negative g.significand rest
      else
        match rest with
        | '.' :: rest => (readFraction g.significand dropped.length rest).map (signed negative)
        | rest => (readScaled g.significand dropped.length rest).map (signed negative)
    else .error .invalidNumber

/-- Passes over an exponent behind its letter. -/
def skipExponent (s : List Char) : Except Error (List Char) :=
  let s := match s with
    | '+' :: rest | '-' :: rest => rest
    | s => s
  match s with
  | c :: rest => if c.isDigit then .ok (rest.dropWhile Char.isDigit) else .error .invalidNumber
  | [] => .error .invalidNumber

/-- Passes over what may follow the digits of a number: an exponent. -/
def skipScaled (s : List Char) : Except Error (List Char) :=
  match s with
  | 'e' :: rest | 'E' :: rest => skipExponent rest
  | s => .ok s

/-- Passes over what may follow the first digits of a number. -/
def skipTail (s : List Char) : Except Error (List Char) :=
  match s with
  | '.' :: c :: rest =>
    if c.isDigit then skipScaled (rest.dropWhile Char.isDigit) else .error .invalidNumber
  | ['.'] => .error .invalidNumber
  | s => skipScaled s

/-- Passes over a number behind its sign. Its size does not matter. -/
def skipNumber (s : List Char) : Except Error (List Char) :=
  match s with
  | '0' :: c :: rest => if c.isDigit then .error .invalidNumber else skipTail (c :: rest)
  | ['0'] => .ok []
  | c :: rest =>
    if c.isDigit then skipTail (rest.dropWhile Char.isDigit) else .error .invalidNumber
  | [] => .error .invalidNumber

end Messenger.Json
