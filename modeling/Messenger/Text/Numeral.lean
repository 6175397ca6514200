set_option relaxedAutoImplicit false
set_option autoImplicit false

/-!
# Numerals

Reading whole numbers of a bounded size from text, and writing them. A numeral is an optional
plus sign and at least one digit; a number that does not fit the asked size is refused.

## Main definitions

* `Messenger.Text.limit32`, `Messenger.Text.limit64`: how many words of these sizes there are.
* `Messenger.Text.digitValue?`: the value of a digit in a base up to thirty-six.
* `Messenger.Text.readNat?`: the number that a non-empty list of digits denotes.
* `Messenger.Text.readUnsigned?`: a numeral of bounded size.
* `Messenger.Text.hexDigit`: a digit of base sixteen, in lower case.
* `Messenger.Text.padded`: a number in decimal, with zeros in front up to a width.
-/

namespace Messenger.Text

/-- The least number that does not fit 32 bits, `2 ^ 32`. -/
def limit32 : Nat := 0x100000000

/-- The least number that does not fit 64 bits, `2 ^ 64`. -/
def limit64 : Nat := 0x10000000000000000

/-- The value of an ASCII letter or digit as a digit of base thirty-six. -/
def digitValue36? (c : Char) : Option Nat :=
  if '0' ≤ c ∧ c ≤ '9' then some (c.toNat - '0'.toNat)
  else if 'a' ≤ c ∧ c ≤ 'z' then some (c.toNat - 'a'.toNat + 10)
  else if 'A' ≤ c ∧ c ≤ 'Z' then some (c.toNat - 'A'.toNat + 10)
  else none

/-- The value of a digit of the given base. -/
def digitValue? (base : Nat) (c : Char) : Option Nat :=
  (digitValue36? c).filter (· < base)

/-- Continues reading digits behind a number already read. -/
def readDigits (base : Nat) (n : Nat) : List Char → Option Nat
  | [] => some n
  | c :: rest =>
    match digitValue? base c with
    | none => none
    | some d => readDigits base (n * base + d) rest

/-- The number that a non-empty list of digits denotes. -/
def readNat? (base : Nat) : List Char → Option Nat
  | [] => none
  | s => readDigits base 0 s

/-- A numeral with an optional plus sign, of a number below `limit`. -/
def readUnsigned? (base limit : Nat) (s : List Char) : Option Nat :=
  let digits := match s with
    | '+' :: rest => rest
    | s => s
  (readNat? base digits).filter (· < limit)

/-- A digit of base sixteen, in lower case. -/
def hexDigit (n : Nat) : Char :=
  if n < 10 then Char.ofNat ('0'.toNat + n) else Char.ofNat ('a'.toNat + (n - 10))

/-- A digit of base sixteen, in upper case. -/
def upperHexDigit (n : Nat) : Char :=
  if n < 10 then Char.ofNat ('0'.toNat + n) else Char.ofNat ('A'.toNat + (n - 10))

/-- A number in decimal. -/
def decimal (n : Nat) : List Char :=
  Nat.toDigits 10 n

/-- A number in decimal, with zeros in front up to `width` characters. -/
def padded (width n : Nat) : List Char :=
  let digits := decimal n
  List.replicate (width - digits.length) '0' ++ digits

/-- An integer in decimal. -/
def signedDecimal : Int → List Char
  | .ofNat n => decimal n
  | .negSucc n => '-' :: decimal (n + 1)

/-- A decimal digit has its own value. -/
theorem digitValue?_ten {c : Char} (h : c.isDigit) :
    digitValue? 10 c = some (c.toNat - 48) := by
  simp only [Char.isDigit, Bool.and_eq_true, decide_eq_true_eq] at h
  have h' : '0' ≤ c ∧ c ≤ '9' := h
  have hlt : c.toNat - '0'.toNat < 10 := by
    have : c.toNat ≤ 57 := h'.2
    have h0 : '0'.toNat = 48 := rfl
    omega
  simp only [digitValue?, digitValue36?, h', and_self, if_true, Option.filter, hlt, decide_true]
  rfl

end Messenger.Text
