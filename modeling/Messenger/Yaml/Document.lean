import Messenger.Yaml.Event

set_option relaxedAutoImplicit false
set_option autoImplicit false

/-!
# Documents

A document is read as far as it goes: its events up to the first problem, and the problem. So what
the events say can be judged before what is wrong with the rest of the text.

## Main definitions

* `Messenger.Yaml.Document`: the events, the aliases and the problem.
* `Messenger.Yaml.Document.read`: reads the first document of a text.
* `Messenger.Yaml.Document.target?`: where the node is that an alias stands for.

## Design

Anchors have numbers, and an alias stands for the last node that got the number of its anchor. The
number is how many different anchors came before, so an anchor that is used again shares its new
number with the next new one.
-/

namespace Messenger.Yaml

/-- Why a document cannot be read on. -/
inductive Stop
  | problem (p : Problem)
  /-- An alias stands for an anchor that did not come before. -/
  | unknownAnchor (mark : Mark)
  deriving DecidableEq, Repr, Inhabited

/-- The reason in words. -/
def Stop.message : Stop → String
  | problem p => p.message
  | unknownAnchor mark => "unknown anchor" ++ Problem.whereabouts mark

/-- The first document of a text. -/
structure Document where
  events : Array Marked := #[]
  /-- The number of each anchor. -/
  anchors : List (List Char × Nat) := []
  /-- The place of the last node of each number. -/
  places : List (Nat × Nat) := []
  /-- The number for which the alias at each place stands. -/
  aliases : List (Nat × Nat) := []
  stop : Option Stop := none
  /-- Where the end of the text is, if there is nothing in it. -/
  void : Option Mark := none
  /-- Another document follows. -/
  more : Bool := false
  deriving Repr, Inhabited

namespace Document

/-- Notes the anchor of the next event. -/
def note (name : Option (List Char)) (d : Document) : Document :=
  match name with
  | none => d
  | some name =>
    let number := d.anchors.length
    { d with
      anchors := (name, number) :: d.anchors.filter fun a => a.1 ≠ name
      places := (number, d.events.size) :: d.places }

/-- Adds an event. -/
def add (e : Marked) (d : Document) : Document :=
  match e.1 with
  | .alias name =>
    match d.anchors.lookup name with
    | some number =>
      { d with events := d.events.push e, aliases := (d.events.size, number) :: d.aliases }
    | none => { d with stop := some (.unknownAnchor e.2) }
  | .scalar anchor _ _ _ | .sequenceStart anchor | .mappingStart anchor =>
    let d := d.note anchor
    { d with events := d.events.push e }
  | .sequenceEnd | .mappingEnd => { d with events := d.events.push e }

/-- The place of the node that the alias at a place stands for. -/
def target? (place : Nat) (d : Document) : Option Nat :=
  (d.aliases.lookup place).bind fun number => d.places.lookup number

/-- Stops at a problem. -/
def stopAt (p : Problem) (d : Document) : Document :=
  { d with stop := some (.problem p) }

/-- Looks whether another document follows. -/
def finish (r : Reader) (d : Document) : Document :=
  match r.finish with
  | .error p => d.stopAt p
  | .ok r =>
    match r.begin false with
    | .ok none => d
    | _ => { d with more := true }

/-- Reads events, so many at most. -/
def readEvents : Nat → Reader → Document → Document
  | 0, _, d => d
  | n + 1, r, d =>
    match r.step with
    | .error p => d.stopAt p
    | .ok none => d.finish r
    | .ok (some (e, r)) =>
      let d := d.add e
      if d.stop.isSome then d else readEvents n r d

/-- A character that a text may hold. -/
def isAllowed (c : Char) : Bool :=
  let n := c.toNat
  n = 9 || n = 10 || n = 13 || (32 ≤ n && n ≤ 126) || n = 0x85 || (0xa0 ≤ n && n ≤ 0xd7ff) ||
    (0xe000 ≤ n && n ≤ 0xfffd) || 0x10000 ≤ n

/-- The problem of a character that a text may not hold, if there is one. -/
def control? (text : List Char) : Option Problem :=
  let allowed := text.takeWhile isAllowed
  if allowed.length = text.length then none
  else
    some {
      cause := "control characters are not allowed"
      offset := (String.ofList allowed).utf8ByteSize }

/-- Reads the first document of a text. A token makes a few events at most. -/
def read (text : String) : Document :=
  let chars := text.toList
  match control? chars with
  | some p => stopAt p {}
  | none =>
    let r := Reader.start chars
    match r.begin true with
    | .error p => stopAt p {}
    | .ok (some r) => readEvents (8 * chars.length + 16) r {}
    | .ok none => { void := some (match r.peek with
        | .ok (t, _) => t.start
        | .error _ => .origin) }

end Document

end Messenger.Yaml
