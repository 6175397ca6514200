import Messenger.Timestamp.Basic
import Messenger.Text.Numeral

set_option relaxedAutoImplicit false
set_option autoImplicit false

/-!
# Writing timestamps

A timestamp is written in the form of RFC 3339. The fraction of the second has three, six or nine
digits, as few as keep it whole, and is left out if it is zero. A year that does not have four
digits is written with a sign and at least four digits.

## Main definitions

* `Messenger.Timestamp.write`: the date and the time.
* `Messenger.Timestamp.render`: the text in an envelope, with the offset `Z`.
* `Messenger.Timestamp.renderOffset`: the text with the offset in figures.
-/

namespace Messenger.Timestamp

/-- A year: four digits, or a sign and at least four. -/
def writeYear (year : Int) : List Char :=
  if 0 ≤ year ∧ year ≤ 9999 then Text.padded 4 year.toNat
  else if year < 0 then '-' :: Text.padded 4 (-year).toNat
  else '+' :: Text.padded 4 year.toNat

/-- The fraction of a second, with as few groups of three digits as keep it whole. -/
def writeFraction (nano : Nat) : List Char :=
  if nano = 0 then []
  else if nano % 1000000 = 0 then '.' :: Text.padded 3 (nano / 1000000)
  else if nano % 1000 = 0 then '.' :: Text.padded 6 (nano / 1000)
  else '.' :: Text.padded 9 nano

/-- The date and the time, without an offset. -/
def write (t : Timestamp) : List Char :=
  writeYear t.date.year ++ '-' :: Text.padded 2 t.date.month ++ '-' :: Text.padded 2 t.date.day ++
    'T' :: Text.padded 2 t.hour ++ ':' :: Text.padded 2 t.minute ++
    ':' :: Text.padded 2 t.second ++ writeFraction t.nano

/-- The text of a timestamp in an envelope. -/
def render (t : Timestamp) : String :=
  String.ofList (t.write ++ ['Z'])

/-- The text of a timestamp with its offset in figures. -/
def renderOffset (t : Timestamp) : String :=
  String.ofList (t.write ++ ['+', '0', '0', ':', '0', '0'])

end Messenger.Timestamp
