import Messenger.Domain.Direction
import Messenger.Domain.Joining
import Messenger.Domain.Mapping
import Messenger.Domain.Punycode

set_option relaxedAutoImplicit false
set_option autoImplicit false

/-!
# Names of hosts

The name of a host is a row of labels with dots between them. A name that is written with
characters beyond ASCII is brought into a form in ASCII: characters are replaced by those that they
stand for, marks are joined to their letters, and each label that still has characters beyond ASCII
is written in letters, digits and hyphens behind the mark `xn--`.

## Main definitions

* `Messenger.Domain.isForbidden`: the ASCII characters that no name has.
* `Messenger.Domain.Label`: a label in its two forms.
* `Messenger.Domain.toAscii?`: the form of a name in ASCII.
-/

namespace Messenger.Domain

/-- The ASCII characters that no name of a host has: controls, the space, and the signs that have
a meaning in an address. -/
def isForbidden (c : Char) : Bool :=
  c.toNat ≤ 32 || c.toNat = 127 || "%#/:<>?@[\\]^|".toList.contains c

/-- A character of ASCII. -/
def isAscii (c : Char) : Bool :=
  c.toNat < 128

/-- The mark in front of a label that is written in letters, digits and hyphens. -/
def mark : List Char := "xn--".toList

/-- A label: as it is read, and as it is written in ASCII. -/
structure Label where
  read : List Char
  written : List Char
  deriving DecidableEq, Repr, Inhabited

/-- A label that may stand in a name: it does not begin with a mark on another character, and its
joiners stand where they may. -/
def fits (label : List Char) : Bool :=
  (match label with
    | [] => true
    | c :: _ => !isMark c) && joinersFit label

/-- How long a label may be that is to be written in letters, digits and hyphens. -/
def greatestRead : Nat := 1000

/-- How long a label may be behind the mark `xn--`. -/
def greatestWritten : Nat := 2000

/-- The label behind the mark `xn--`, if it is one that would be written so. -/
def unmark? (s : List Char) : Option (List Char) :=
  if s.getLast? = some '-' || s.length > greatestWritten then none
  else
    match Punycode.decode? s with
    | none => none
    | some label =>
      if label.all isAscii then none
      else if label.all (fun c => fate c = .kept && !isForbidden c && c ≠ '.') &&
          normalize label = label && fits label then some label
      else none

/-- A label in its two forms. -/
def toLabel? (s : List Char) : Option Label :=
  if mark.isPrefixOf s then
    if s.all isAscii then (unmark? (s.drop mark.length)).map (⟨·, s⟩) else none
  else if fits s then
    if s.all isAscii then some ⟨s, s⟩
    else if s.length ≤ greatestRead then some ⟨s, mark ++ Punycode.encode s⟩
    else none
  else none

/-- If a label of a name runs to the left, all labels keep the rules of direction. -/
def directionsFit (labels : List Label) : Bool :=
  !(labels.any fun l => l.read.any runsLeft) || labels.all fun l => keepsDirection l.read

/-- The form of a name in ASCII, if it can be a name of a host. -/
def toAscii? (name : List Char) : Option (List Char) :=
  match replaceAll? name with
  | none => none
  | some replaced =>
    let composed := normalize replaced
    if composed.any isForbidden then none
    else
      match (Text.splitAtEvery '.' composed).mapM toLabel? with
      | none => none
      | some labels =>
        if directionsFit labels then some (['.'].intercalate (labels.map Label.written)) else none

end Messenger.Domain
