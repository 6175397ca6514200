import Messenger.Text.Numeral

set_option relaxedAutoImplicit false
set_option autoImplicit false

/-!
# The shortest decimal of a double

A double of positive value `m · 2^e` stands for every real that rounds to it. Among the decimals
`d · 10^k` in that interval, the shortest one has the largest `k`; of two such decimals the one
nearer to the value is taken, and of two equally near ones the one with an even last digit.

## Main definitions

* `Messenger.Decimal.Binary`, `Messenger.Decimal.Binary.ofFloat?`: the value `m · 2^e` of a
  double, and the width of its rounding interval.
* `Messenger.Decimal.shortest`: the shortest decimal of such a value.
* `Messenger.Decimal.Layout`: how a decimal is laid out as text.
* `Messenger.Decimal.render?`: the text of a double under a layout.

## Design

All comparisons are made on natural numbers: `x · 2^(e-2)` and `d · 10^k` are both multiplied by
the powers of two and ten that clear the negative exponents. The value's neighbours on the grid of
step `10^k` are `⌊m · 2^e / 10^k⌋` and its successor, so testing these two for every `k` from the
coarsest grid on finds the shortest decimal.
-/

namespace Messenger.Decimal

/-- The positive value `significand · 2^exponent`. `narrow` says that the next smaller double is
only half as far away as the next larger one. -/
structure Binary where
  significand : Nat
  exponent : Int
  narrow : Bool
  deriving DecidableEq, Repr

/-- The absolute value of a finite double that is not zero. -/
def Binary.ofFloat? (x : Float) : Option Binary :=
  let bits : Nat := x.toBits.toNat
  let fraction : Nat := bits % 0x10000000000000
  let scale : Nat := bits / 0x10000000000000 % 0x800
  if scale = 2047 then none
  else if scale = 0 then
    if fraction = 0 then none else some ⟨fraction, -1074, false⟩
  else some ⟨0x10000000000000 + fraction, (scale : Int) - 1075, fraction = 0 && 1 < scale⟩

/-- The decimal `coefficient · 10^exponent`. -/
structure Scaled where
  coefficient : Nat
  exponent : Int
  deriving DecidableEq, Repr

/-- What multiplies a quarter unit of `b`, and what multiplies a unit of the grid `10^k`, so that
both become natural numbers. -/
def Binary.factors (b : Binary) (k : Int) : Nat × Nat :=
  let e := b.exponent - 2
  (Nat.pow 2 e.toNat * Nat.pow 10 (-k).toNat, Nat.pow 2 (-e).toNat * Nat.pow 10 k.toNat)

/-- Whether `d · 10^k` rounds to `b`: it lies in the interval around the value, whose ends belong
to it exactly if the significand is even. -/
def Binary.covers (b : Binary) (d : Nat) (k : Int) : Bool :=
  let (unit, grid) := b.factors k
  let low := (4 * b.significand - if b.narrow then 1 else 2) * unit
  let high := (4 * b.significand + 2) * unit
  if b.significand % 2 = 0 then low ≤ d * grid && d * grid ≤ high
  else low < d * grid && d * grid < high

/-- The decimal of step `10^k` that rounds to `b` and is nearest to it, if there is one. -/
def Binary.onGrid? (b : Binary) (k : Int) : Option Nat :=
  let (unit, grid) := b.factors k
  let value := 4 * b.significand * unit
  let below := value / grid
  match b.covers below k, b.covers (below + 1) k with
  | false, false => none
  | true, false => some below
  | false, true => some (below + 1)
  | true, true =>
    let down := value - below * grid
    let up := (below + 1) * grid - value
    if down < up then some below
    else if up < down then some (below + 1)
    else some (if below % 2 = 0 then below else below + 1)

/-- The first hit on the grids of step `10^k`, `10^(k-1)`, … -/
def Binary.search (b : Binary) : Nat → Int → Scaled
  | 0, _ => ⟨b.significand, b.exponent⟩
  | grids + 1, k =>
    match b.onGrid? k with
    | some d => ⟨d, k⟩
    | none => Binary.search b grids (k - 1)

/-- The shortest decimal that rounds to `b`. The first grid is coarser than the value, and
twenty grids suffice: seventeen digits tell any two doubles apart. -/
def shortest (b : Binary) : Scaled :=
  let magnitude := (b.significand.log2 : Int) + b.exponent
  b.search 20 (magnitude * 30103 / 100000 + 1)

/-- How a decimal is laid out. With `p` the place of the point, counted from the front of the
digits, the decimal is written positionally if `least < p ≤ greatest`, and with an exponent
otherwise. -/
structure Layout where
  least : Int
  greatest : Int
  deriving DecidableEq, Repr

/-- Digits with the point `p` places behind their front; a whole number ends in a point and a
zero. -/
def positional (digits : List Char) (p : Int) : List Char :=
  if p ≤ 0 then
    '0' :: '.' :: List.replicate (-p).toNat '0' ++ digits
  else if (digits.length : Int) ≤ p then
    digits ++ List.replicate (p.toNat - digits.length) '0' ++ ['.', '0']
  else digits.take p.toNat ++ '.' :: digits.drop p.toNat

/-- Digits with the point behind the first of them, and the power of ten that this needs. -/
def scientific (digits : List Char) (p : Int) : List Char :=
  let mantissa := match digits with
    | [] => []
    | [d] => [d]
    | d :: rest => d :: '.' :: rest
  let power := if p - 1 < 0 then Text.signedDecimal (p - 1) else '+' :: Text.signedDecimal (p - 1)
  mantissa ++ 'e' :: power

/-- A positive decimal under a layout. -/
def Scaled.render (layout : Layout) (s : Scaled) : List Char :=
  let digits := Text.decimal s.coefficient
  let p := s.exponent + digits.length
  if layout.least < p ∧ p ≤ layout.greatest then positional digits p else scientific digits p

/-- The text of a double: a sign if it is set, then the shortest decimal. Neither an infinity nor
a value that is no number has one. -/
def render? (layout : Layout) (x : Float) : Option (List Char) :=
  let bits : Nat := x.toBits.toNat
  let sign := if bits / 0x8000000000000000 % 2 = 1 then ['-'] else []
  match Binary.ofFloat? x with
  | some b => some (sign ++ (shortest b).render layout)
  | none => if bits % 0x8000000000000000 = 0 then some (sign ++ ['0', '.', '0']) else none

end Messenger.Decimal
