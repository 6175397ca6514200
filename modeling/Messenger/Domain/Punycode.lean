import Messenger.Text.Numeral

set_option relaxedAutoImplicit false
set_option autoImplicit false

/-!
# Labels in letters, digits and hyphens

A label with characters beyond ASCII is written in letters, digits and hyphens: first its ASCII
characters, then, after a hyphen, where the others have to be inserted. The insertions are ordered
by the characters inserted, and by their places among equal ones, and each is given by its distance
from the one before. A distance is written in digits of a varying base, the smallest first, so that
its last digit can be told from those before.

## Main definitions

* `Messenger.Domain.Punycode.encode`: the written form of a label.
* `Messenger.Domain.Punycode.decode?`: the label of a written form.
-/

namespace Messenger.Domain.Punycode

/-- The number of digits. -/
def base : Nat := 36

/-- The least threshold of a digit. -/
def leastThreshold : Nat := 1

/-- The greatest threshold of a digit. -/
def greatestThreshold : Nat := 26

/-- The first character that can be inserted. -/
def firstInserted : Nat := 128

/-- The bias at the start. -/
def firstBias : Nat := 72

/-- The bias after a distance has been written, which makes the digits of distances of its size
few. `count` is the number of characters so far. -/
def adapt (distance count : Nat) (first : Bool) : Nat :=
  let d := distance / (if first then 700 else 2)
  go 32 (d + d / count) 0
where
  /-- Takes out of a distance the digits that are certain to be needed. -/
  go : Nat → Nat → Nat → Nat
    | 0, _, k => k
    | n + 1, d, k =>
      if d > (base - leastThreshold) * greatestThreshold / 2 then
        go n (d / (base - leastThreshold)) (k + base)
      else k + (base - leastThreshold + 1) * d / (d + 38)

/-- The threshold of the digit at a position: a digit below it is the last of its distance. -/
def threshold (position bias : Nat) : Nat :=
  if position ≤ bias then leastThreshold else min greatestThreshold (position - bias)

/-- A digit: a letter, or a figure from twenty-six on. -/
def digit (n : Nat) : Char :=
  if n < 26 then Char.ofNat (97 + n) else Char.ofNat (48 + (n - 26))

/-- The value of a digit. Capital letters stand for small ones. -/
def digitValue? (c : Char) : Option Nat :=
  if c.isDigit then some (c.toNat - 48 + 26)
  else if c.isLower then some (c.toNat - 97)
  else if c.isUpper then some (c.toNat - 65)
  else none

/-- The digits of a distance, in at most `turns` turns. -/
def writeDistance (bias : Nat) : Nat → Nat → Nat → List Char
  | 0, _, _ => []
  | turns + 1, position, q =>
    let t := threshold position bias
    if q < t then [digit q]
    else
      digit (t + (q - t) % (base - t)) ::
        writeDistance bias turns (position + base) ((q - t) / (base - t))

/-- What is known while the insertions are written. -/
structure State where
  /-- The distance that has to be written next, so far. -/
  distance : Nat
  bias : Nat
  /-- How many characters have been written. -/
  written : Nat
  first : Bool
  deriving DecidableEq, Repr, Inhabited

/-- Goes once through the label and writes an insertion for each occurrence of the character `n`.
The ones below it are there already. -/
def writeInsertions (n : Nat) : List Nat → State → List Char × State
  | [], s => ([], { s with distance := s.distance + 1 })
  | c :: rest, s =>
    if c < n then writeInsertions n rest { s with distance := s.distance + 1 }
    else if c = n then
      let digits := writeDistance s.bias 32 base s.distance
      let bias := adapt s.distance (s.written + 1) s.first
      let (more, s) := writeInsertions n rest ⟨0, bias, s.written + 1, false⟩
      (digits ++ more, s)
    else writeInsertions n rest s

/-- The least of the numbers of a list that are at least `n`. -/
def leastFrom? (n : Nat) (cs : List Nat) : Option Nat :=
  (cs.filter (n ≤ ·)).min?

/-- Writes the insertions of the characters from `n` on, each character of the label being taken
up in at most one of the turns. -/
def writeAll (cs : List Nat) : Nat → Nat → State → List Char
  | 0, _, _ => []
  | turns + 1, n, s =>
    match leastFrom? n cs with
    | none => []
    | some m =>
      let s := { s with distance := s.distance + (m - n) * (s.written + 1) }
      let (digits, s) := writeInsertions m cs s
      digits ++ writeAll cs turns (m + 1) s

/-- The written form of a label. -/
def encode (label : List Char) : List Char :=
  let plain := label.filter fun c => c.toNat < firstInserted
  let start : State := ⟨0, firstBias, plain.length, true⟩
  let insertions := writeAll (label.map Char.toNat) (label.length + 1) firstInserted start
  (if plain.isEmpty then [] else plain ++ ['-']) ++ insertions

/-- Reads the digits of a distance, the first of them at `position` and of the weight `weight`. -/
def readDistance (bias : Nat) (position weight sum : Nat) :
    List Char → Option (Nat × List Char)
  | [] => none
  | c :: rest =>
    match digitValue? c with
    | none => none
    | some d =>
      let sum := sum + d * weight
      let t := threshold position bias
      if sum ≥ 0x100000000 then none
      else if d < t then some (sum, rest)
      else readDistance bias (position + base) (weight * (base - t)) sum rest

/-- The character of a number, if there is one. -/
def char? (n : Nat) : Option Char :=
  if n.isValidChar then some (Char.ofNat n) else none

/-- Reads the insertions and makes them, in at most `turns` turns. `n` and `place` are the last
character and the place behind it. -/
def readAll : Nat → Nat → Nat → Nat → List Char → List Char → Option (List Char)
  | 0, _, _, _, _, _ => none
  | turns + 1, n, place, bias, label, s =>
    match s with
    | [] => some label
    | s =>
      match readDistance bias base 1 0 s with
      | none => none
      | some (distance, rest) =>
        let count := label.length + 1
        let bias := adapt distance count (place = 0)
        let n := n + (place + distance) / count
        let place := (place + distance) % count
        match char? n with
        | none => none
        | some c => readAll turns n (place + 1) bias (label.insertIdx place c) rest

/-- The part of a list up to its last hyphen and the part behind it. -/
def splitAtLastHyphen (s : List Char) : List Char × List Char :=
  let behind := (s.reverse.takeWhile (· ≠ '-')).reverse
  (s.take (s.length - behind.length - 1), behind)

/-- The label of a written form. The last hyphen ends the characters that are there from the start;
there has to be one of them, for without them no hyphen is written. -/
def decode? (s : List Char) : Option (List Char) :=
  if s.contains '-' then
    match splitAtLastHyphen s with
    | ([], _) => none
    | (plain, insertions) => readAll (s.length + 1) firstInserted 0 firstBias plain insertions
  else readAll (s.length + 1) firstInserted 0 firstBias [] s

end Messenger.Domain.Punycode
