import Messenger.Text.Numeral

set_option relaxedAutoImplicit false
set_option autoImplicit false

/-!
# Identifiers

An envelope is told from others by an identifier. It is made of sixteen random bytes, written as
thirty-two digits of base sixteen in five groups. Six of the bits say that the others are random.

## Main definitions

* `Messenger.Envelope.Identifier.ofBytes`: the identifier of sixteen bytes.
-/

namespace Messenger.Envelope.Identifier

/-- A byte in two digits. -/
def writeByte (n : Nat) : List Char :=
  [Text.hexDigit (n / 16), Text.hexDigit (n % 16)]

/-- A byte whose upper four bits are the version, which is four. -/
def versioned (n : Nat) : Nat := 0x40 + n % 0x10

/-- A byte whose upper two bits are the variant, which is one and zero. -/
def varied (n : Nat) : Nat := 0x80 + n % 0x40

/-- The identifier of sixteen bytes, the first ones in front. -/
def ofBytes (bytes : List Nat) : List Char :=
  let group (first count : Nat) : List Char := ((bytes.drop first).take count).flatMap writeByte
  group 0 4 ++ '-' :: group 4 2 ++
    '-' :: ((bytes.drop 6).take 1).flatMap (writeByte ∘ versioned) ++ group 7 1 ++
    '-' :: ((bytes.drop 8).take 1).flatMap (writeByte ∘ varied) ++ group 9 1 ++
    '-' :: group 10 6

end Messenger.Envelope.Identifier
