import Messenger.Text.Numeral

set_option relaxedAutoImplicit false
set_option autoImplicit false

/-!
# Percent-encoding

A character that would have a meaning at its place in an address is written as its bytes, each as
a percent sign and two digits in base sixteen. Which characters are kept as they are depends on the
place.

## Main definitions

* `Messenger.Address.percentEncode`, `Messenger.Address.percentDecode`: writing and reading.
* `Messenger.Address.keptInFragment`, `Messenger.Address.keptInPath`,
  `Messenger.Address.keptInUserinfo`: the characters that are kept at each place.
-/

namespace Messenger.Address

/-- A byte as a percent sign and two digits. -/
def percentByte (b : UInt8) : List Char :=
  ['%', Text.upperHexDigit (b.toNat / 16), Text.upperHexDigit (b.toNat % 16)]

/-- Writes a text with the characters that are not kept as their bytes. -/
def percentEncode (keeps : Char → Bool) (s : List Char) : List Char :=
  s.flatMap fun c => if keeps c then [c] else (String.utf8EncodeChar c).flatMap percentByte

/-- The bytes of a text in which some may be written as digits. A percent sign that has no two
digits behind it stands for itself. -/
def percentDecode : List Char → List UInt8
  | '%' :: a :: b :: rest =>
    match Text.digitValue? 16 a, Text.digitValue? 16 b with
    | some m, some n => UInt8.ofNat (16 * m + n) :: percentDecode rest
    | _, _ => String.utf8EncodeChar '%' ++ percentDecode (a :: b :: rest)
  | c :: rest => String.utf8EncodeChar c ++ percentDecode rest
  | [] => []

/-- A character of ASCII that is no control. -/
def isVisible (c : Char) : Bool :=
  32 ≤ c.toNat && c.toNat < 127

/-- What is kept in a fragment. -/
def keptInFragment (c : Char) : Bool :=
  isVisible c && !(" \"<>`".toList.contains c)

/-- What is kept in a path. -/
def keptInPath (c : Char) : Bool :=
  keptInFragment c && !("#?\x7b\x7d".toList.contains c)

/-- What is kept in front of a host. -/
def keptInUserinfo (c : Char) : Bool :=
  keptInPath c && !("/:;=@[\\]^|".toList.contains c)

end Messenger.Address
