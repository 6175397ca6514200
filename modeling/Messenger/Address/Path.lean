import Messenger.Address.Origin

set_option relaxedAutoImplicit false
set_option autoImplicit false

/-!
# Paths

A path is a row of segments with a slash in front of each. In the path that is given the segments
`.` and `..` stand for the place itself and for the one above; a segment that names a drive is never
left by `..`.

## Main definitions

* `Messenger.Address.segments`: the segments of a path, with its dots resolved.
* `Messenger.Address.writePath`: the written form of a path.
-/

namespace Messenger.Address

/-- What a segment says. -/
inductive Segment
  | here
  | above
  | named (name : List Char)
  deriving DecidableEq, Repr, Inhabited

/-- The dots of a segment, of which each can be written as its byte, or nothing if the segment has
other characters. -/
def dots? : List Char → Option Nat
  | [] => some 0
  | '.' :: rest => (dots? rest).map (· + 1)
  | '%' :: '2' :: e :: rest => if e = 'e' ∨ e = 'E' then (dots? rest).map (· + 1) else none
  | _ => none

/-- What a segment says. -/
def readSegment (s : List Char) : Segment :=
  match dots? s with
  | some 1 => .here
  | some 2 => .above
  | _ => .named (percentEncode keptInPath s)

/-- The name of a drive: a letter and a colon or a bar. -/
def isDrive (s : List Char) : Bool :=
  match s with
  | [letter, sign] => letter.isAlpha && (sign = ':' || sign = '|')
  | _ => false

/-- The place above, unless it is a drive that would be left. -/
def leave (place : List (List Char)) : List (List Char) :=
  if place.getLast?.any isDrive then place else place.dropLast

/-- Follows the segments of a path from a place. -/
def follow (place : List (List Char)) : List Segment → List (List Char)
  | [] => place
  | [.named name] => place ++ [name]
  | [.here] => place ++ [[]]
  | [.above] => leave place ++ [[]]
  | .named name :: rest => follow (place ++ [name]) rest
  | .here :: rest => follow place rest
  | .above :: rest => follow (leave place) rest

/-- The segments of a path, with its dots resolved. A slash at the front may be missing. -/
def segments (path : List Char) : List (List Char) :=
  let clean := (path.filter (!Origin.isBreak ·)).map fun c => if c = '\\' then '/' else c
  let bare := match clean with
    | '/' :: rest => rest
    | s => s
  follow [] ((Text.splitAtEvery '/' bare).map readSegment)

/-- The written form of a path. -/
def writePath (path : String) : List Char :=
  (segments path.toList).flatMap ('/' :: ·)

end Messenger.Address
