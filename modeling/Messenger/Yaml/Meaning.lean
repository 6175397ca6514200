import Messenger.Decimal.Shortest
import Messenger.Text.Quoted
import Messenger.Yaml.Document

set_option relaxedAutoImplicit false
set_option autoImplicit false

/-!
# What scalars mean

A scalar that stands as it is can mean nothing, a truth value or a number; any other scalar is a
text. A tag can say what a scalar has to mean.

## Main definitions

* `Messenger.Yaml.Meaning`: the meanings.
* `Messenger.Yaml.Meaning.ofPlain`, `Messenger.Yaml.Meaning.ofScalar`: the meaning of a scalar.
* `Messenger.Yaml.readWord?`: the number below a limit that a scalar means.
-/

namespace Messenger.Yaml

/-- What a scalar means. -/
inductive Meaning
  | nothing
  | bool (b : Bool)
  | int (n : Int)
  | float (x : Float)
  | text (s : String)
  deriving Repr, Inhabited

/-! ### Integers -/

/-- The digits behind the sign of a base, with the base. -/
def splitBase? : List Char → Option (Nat × List Char)
  | '0' :: 'x' :: digits => some (16, digits)
  | '0' :: 'o' :: digits => some (8, digits)
  | '0' :: 'b' :: digits => some (2, digits)
  | _ => none

/-- Zeros in front of other digits make a text. -/
def hasLeadingZero (s : List Char) : Bool :=
  let digits := match s with
    | '-' :: rest | '+' :: rest => rest
    | s => s
  match digits with
  | '0' :: d :: rest => (d :: rest).all Char.isDigit
  | _ => false

/-- A number without a minus sign. -/
def readNatural? (s : List Char) : Option Nat :=
  let bare := match s with
    | '+' :: rest => rest
    | s => s
  match (splitBase? bare).bind fun (base, digits) => Text.readNat? base digits with
  | some n => some n
  | none => if hasLeadingZero s then none else Text.readNat? 10 bare

/-- A number with a minus sign, without the sign. -/
def readNegative? (s : List Char) : Option Nat :=
  match s with
  | '-' :: rest =>
    match (splitBase? rest).bind fun (base, digits) => Text.readNat? base digits with
    | some n => some n
    | none => if hasLeadingZero s then none else Text.readNat? 10 rest
  | _ => none

/-- The number below a limit that a scalar means. -/
def readWord? (limit : Nat) (s : List Char) : Option Nat :=
  (readNatural? s).filter (· < limit)

/-- The integer of 128 bits at most that a scalar means. -/
def readInteger? (s : List Char) : Option Int :=
  match (readNatural? s).filter (· < Text.limit64 * Text.limit64) with
  | some n => some n
  | none => ((readNegative? s).filter (2 * · ≤ Text.limit64 * Text.limit64)).map fun n => -(n : Int)

/-! ### Floats -/

/-- Digits, a point among them or not. -/
structure Mantissa where
  digits : List Char
  /-- How many of them are behind the point. -/
  places : Nat
  rest : List Char

/-- The digits at the front of a text. -/
def readMantissa? (s : List Char) : Option Mantissa :=
  let whole := s.takeWhile Char.isDigit
  let m : Mantissa := match s.drop whole.length with
    | '.' :: rest =>
      let part := rest.takeWhile Char.isDigit
      ⟨whole ++ part, part.length, rest.drop part.length⟩
    | rest => ⟨whole, 0, rest⟩
  if m.digits.isEmpty then none else some m

/-- The exponent that makes up a text, or none if the text is empty. -/
def readExponent? (s : List Char) : Option Int :=
  match s with
  | [] => some 0
  | e :: rest =>
    if e = 'e' ∨ e = 'E' then
      match rest with
      | '-' :: digits => (Text.readNat? 10 digits).map fun n => -(n : Int)
      | '+' :: digits => (Text.readNat? 10 digits).map fun n => (n : Int)
      | digits => (Text.readNat? 10 digits).map fun n => (n : Int)
    else none

/-- The double next to a decimal, which is far beyond all doubles from `10 ^ 400` on, and as good as
zero below `10 ^ -400`. -/
def nearest (coefficient : Nat) (exponent : Int) : Float :=
  let magnitude := ((Text.decimal coefficient).length : Int) + exponent
  if coefficient = 0 ∨ magnitude < -400 then 0
  else if 400 < magnitude then 1 / 0
  else if exponent < 0 then Float.ofScientific coefficient true (-exponent).toNat
  else Float.ofScientific coefficient false exponent.toNat

/-- A finite decimal without a sign. -/
def readDecimal? (s : List Char) : Option Float := do
  let m ← readMantissa? s
  let exponent ← readExponent? m.rest
  let x := nearest ((Text.readNat? 10 m.digits).getD 0) (exponent - m.places)
  if x.isFinite then some x else none

/-- The double that a scalar means. -/
def readFloat? (s : List Char) : Option Float :=
  match s with
  | '+' :: rest => if rest.head? = some '-' then none else unsigned rest
  | '-' :: rest =>
    if isInfinity rest then some (-(1 / 0)) else (readDecimal? rest).map fun x => -x
  | s => if s ∈ [".nan", ".NaN", ".NAN"].map String.toList then some (0 / 0) else unsigned s
where
  /-- The spellings of an infinity. -/
  isInfinity (s : List Char) : Bool :=
    s ∈ [".inf", ".Inf", ".INF"].map String.toList
  /-- A number without a sign. -/
  unsigned (s : List Char) : Option Float :=
    if isInfinity s then some (1 / 0) else readDecimal? s

/-! ### Meanings -/

/-- The truth value of a word. -/
def readBool? (s : List Char) : Option Bool :=
  if s ∈ ["true", "True", "TRUE"].map String.toList then some true
  else if s ∈ ["false", "False", "FALSE"].map String.toList then some false
  else none

/-- A word that means nothing. -/
def isNull (s : List Char) : Bool :=
  s ∈ ["null", "Null", "NULL", "~"].map String.toList

namespace Meaning

/-- The meaning of a scalar that stands as it is. -/
def ofPlain (s : List Char) : Meaning :=
  if s.isEmpty || isNull s then .nothing
  else
    match readBool? s, readInteger? s with
    | some b, _ => .bool b
    | none, some n => .int n
    | none, none =>
      match if hasLeadingZero s then none else readFloat? s with
      | some x => .float x
      | none => .text (String.ofList s)

/-- The tags of the format itself. -/
def coreTag (name : String) : TagText :=
  bytesOf ("tag:yaml.org,2002:" ++ name).toList

/-- The meaning of a scalar, or what its tag says that it is not. -/
def ofScalar (tag : Option TagText) (text : String) (style : Style) : Except String Meaning :=
  let s := text.toList
  let orElse (m : Option Meaning) (expected : String) : Except String Meaning :=
    match m with
    | some m => .ok m
    | none => .error expected
  match tag with
  | none => .ok (if style = .plain then ofPlain s else .text text)
  | some tag =>
    if tag = coreTag "bool" then orElse ((readBool? s).map .bool) "a boolean"
    else if tag = coreTag "int" then orElse ((readInteger? s).map .int) "an integer"
    else if tag = coreTag "float" then orElse ((readFloat? s).map .float) "a float"
    else if tag = coreTag "null" then orElse (if isNull s then some .nothing else none) "null"
    else if tag.head? = some 0x21 ∧ style = .plain then .ok (ofPlain s)
    else .ok (.text text)

/-- The layout of doubles in messages: always positionally. -/
def layout : Decimal.Layout := ⟨-1000, 1000⟩

/-- A double in a message. -/
def floatText (x : Float) : String :=
  match Decimal.render? layout x with
  | some s => String.ofList s
  | none => if x.isNaN then "NaN" else if x < 0 then "-inf" else "inf"

/-- The meaning in a message. -/
def describe : Meaning → String
  | nothing => "unit value"
  | bool b => "boolean `" ++ (if b then "true" else "false") ++ "`"
  | int n =>
    let digits := "integer `" ++ String.ofList (Text.signedDecimal n) ++ "`"
    if 2 * n < -Text.limit64 then digits ++ " as i128"
    else if Text.limit64 ≤ n then digits ++ " as u128"
    else digits
  | float x => "floating point `" ++ floatText x ++ "`"
  | text s => "string " ++ String.ofList (Text.quoted s.toList)

end Meaning

end Messenger.Yaml
