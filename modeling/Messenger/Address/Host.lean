import Messenger.Address.Percent
import Messenger.Domain.Name

set_option relaxedAutoImplicit false
set_option autoImplicit false

/-!
# Hosts

A host is given by a name or by a number of version 4 or 6 of the internet protocol. A name whose
last label is a number stands for a number of version 4, whose parts may be written in base eight,
ten or sixteen, and of which the last part fills all places that are left.

## Main definitions

* `Messenger.Address.Host`: the hosts.
* `Messenger.Address.Host.read`, `Messenger.Address.Host.readOpaque`: reading a host.
* `Messenger.Address.Host.write`: its written form.
* `Messenger.Address.Fault`: what can be wrong with an address.
-/

namespace Messenger.Address

/-- What is wrong with an address. -/
inductive Fault
  | noScheme
  | emptyHost
  | invalidPort
  | invalidFour
  | invalidSix
  | invalidName
  | invalidCharacter
  deriving DecidableEq, Repr, Inhabited

/-- The fault in words. -/
def Fault.message : Fault → String
  | noScheme => "relative URL without a base"
  | emptyHost => "empty host"
  | invalidPort => "invalid port number"
  | invalidFour => "invalid IPv4 address"
  | invalidSix => "invalid IPv6 address"
  | invalidName => "invalid international domain name"
  | invalidCharacter => "invalid domain character"

/-- A host. -/
inductive Host
  /-- A name in ASCII. -/
  | name (name : List Char)
  /-- A number of version 4. -/
  | four (number : Nat)
  /-- A number of version 6, in eight pieces of sixteen bits. -/
  | six (pieces : List Nat)
  deriving DecidableEq, Repr, Inhabited

namespace Host

/-! ### Numbers of version 4 -/

/-- A number in the base that its first characters tell. -/
def readNumber? (s : List Char) : Option Nat :=
  match s with
  | [] => none
  | '0' :: 'x' :: rest | '0' :: 'X' :: rest =>
    if rest.isEmpty then some 0 else Text.readNat? 16 rest
  | '0' :: rest => if rest.isEmpty then some 0 else Text.readNat? 8 rest
  | s => Text.readNat? 10 s

/-- The labels of a name, without the empty one behind a dot at the end. -/
def labels (s : List Char) : List (List Char) :=
  let parts := Text.splitAtEvery '.' s
  if parts.getLast? = some [] then parts.dropLast else parts

/-- The last label of a name is a number. -/
def endsInNumber (s : List Char) : Bool :=
  match (labels s).getLast? with
  | none => false
  | some label =>
    (label ≠ [] && label.all Char.isDigit) || (readNumber? label).isSome

/-- The number that the parts give, of which the last fills all places that are left. -/
def joinParts? (parts : List Nat) : Option Nat :=
  match parts.reverse with
  | [] => none
  | last :: front =>
    let places := 4 - front.length
    if 4 < parts.length ∨ front.any (255 < ·) ∨ Nat.pow 256 places ≤ last then none
    else some (front.reverse.foldl (fun n part => n * 256 + part) 0 * Nat.pow 256 places + last)

/-- A number of version 4. -/
def readFour (s : List Char) : Except Fault Host :=
  match (labels s).mapM readNumber? with
  | none => .error .invalidFour
  | some parts =>
    match joinParts? parts with
    | none => .error .invalidFour
    | some n => .ok (.four n)

/-- The written form of a number of version 4. -/
def writeFour (n : Nat) : List Char :=
  let parts := [n / 0x1000000, n / 0x10000 % 0x100, n / 0x100 % 0x100, n % 0x100]
  ['.'].intercalate (parts.map Text.decimal)

/-! ### Numbers of version 6 -/

/-- A part of a number of version 4 at the end of one of version 6. -/
def readPart? (s : List Char) : Option Nat :=
  match s with
  | '0' :: _ :: _ => none
  | s => (Text.readNat? 10 s).filter (· ≤ 255)

/-- The two pieces that a number of version 4 at the end gives. -/
def readTail? (s : List Char) : Option (List Nat) :=
  match (Text.splitAtEvery '.' s).mapM readPart? with
  | some [a, b, c, d] => some [a * 256 + b, c * 256 + d]
  | _ => none

/-- Reads the pieces from `s` on, in at most `turns` turns, behind the pieces that have been read.
`gap` is the place behind the piece at which zeros are left out, if there is one. -/
def readPieces? : Nat → List Char → List Nat → Option Nat → Option (List Nat × Option Nat)
  | 0, _, _, _ => none
  | turns + 1, s, pieces, gap =>
    match s with
    | [] => some (pieces, gap)
    | s =>
      if pieces.length = 8 then none
      else
        match s with
        | ':' :: rest =>
          if gap.isSome then none
          else readPieces? turns rest (pieces ++ [0]) (some (pieces.length + 1))
        | s =>
          let digits := (s.take 4).takeWhile fun c => (Text.digitValue? 16 c).isSome
          let value := Text.hexNat digits
          match s.drop digits.length with
          | [] => some (pieces ++ [value], gap)
          | ':' :: rest =>
            if rest.isEmpty then none else readPieces? turns rest (pieces ++ [value]) gap
          | '.' :: _ =>
            if digits.isEmpty ∨ 6 < pieces.length then none
            else (readTail? s).map fun tail => (pieces ++ tail, gap)
          | _ => none

/-- Fills in the zeros that are left out. -/
def fillGap? (pieces : List Nat) : Option Nat → Option (List Nat)
  | none => if pieces.length = 8 then some pieces else none
  | some gap =>
    if pieces.length ≤ 8 then
      some (pieces.take gap ++ List.replicate (8 - pieces.length) 0 ++ pieces.drop gap)
    else none

/-- A number of version 6. -/
def readSix (s : List Char) : Except Fault Host :=
  let read := match s with
    | ':' :: ':' :: rest => readPieces? (s.length + 1) rest [0] (some 1)
    | [] | [_] | ':' :: _ => none
    | s => readPieces? (s.length + 1) s [] none
  match read with
  | none => .error .invalidSix
  | some (pieces, gap) =>
    match fillGap? pieces gap with
    | none => .error .invalidSix
    | some pieces => .ok (.six pieces)

/-- How many of the first pieces are zero. -/
def zeros (pieces : List Nat) : Nat :=
  (pieces.takeWhile (· = 0)).length

/-- The first of the longest runs of zeros, as its place and its length. -/
def longestZeros (pieces : List Nat) : Nat × Nat :=
  (List.range pieces.length).foldl
    (fun best i => if best.2 < zeros (pieces.drop i) then (i, zeros (pieces.drop i)) else best)
    (0, 0)

/-- Pieces with colons between them. -/
def writePieces (pieces : List Nat) : List Char :=
  [':'].intercalate (pieces.map (Nat.toDigits 16))

/-- The written form of a number of version 6. The longest run of at least two zeros is left
out. -/
def writeSix (pieces : List Nat) : List Char :=
  let (start, length) := longestZeros pieces
  if length < 2 then writePieces pieces
  else
    writePieces (pieces.take start) ++ ':' :: ':' :: writePieces (pieces.drop (start + length))

/-! ### Hosts -/

/-- The text between brackets, if it is a number of version 6. -/
def readBrackets (s : List Char) : Except Fault Host :=
  if s.getLast? = some ']' then readSix s.dropLast else .error .invalidSix

/-- A host in an address of a scheme that this library knows. -/
def read (s : List Char) : Except Fault Host :=
  match s with
  | '[' :: rest => readBrackets rest
  | s =>
    match String.fromUTF8? ⟨(percentDecode s).toArray⟩ with
    | none => .error .invalidName
    | some text =>
      match Domain.toAscii? text.toList with
      | none => .error .invalidName
      | some ascii =>
        if ascii.isEmpty then .error .emptyHost
        else if endsInNumber ascii then readFour ascii
        else .ok (.name ascii)

/-- A character that no host has, in an address of any scheme. -/
def isForbidden (c : Char) : Bool :=
  c = Char.ofNat 0 || "\t\n\r #/:<>?@[\\]^|".toList.contains c

/-- A host in an address of another scheme. -/
def readOpaque (s : List Char) : Except Fault Host :=
  match s with
  | '[' :: rest => readBrackets rest
  | s =>
    if s.any isForbidden then .error .invalidCharacter
    else .ok (.name (percentEncode isVisible s))

/-- The written form of a host. -/
def write : Host → List Char
  | name n => n
  | four n => writeFour n
  | six pieces => '[' :: writeSix pieces ++ [']']

end Host

end Messenger.Address
