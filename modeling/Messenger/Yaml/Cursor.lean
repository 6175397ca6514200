import Messenger.Text.Numeral

set_option relaxedAutoImplicit false
set_option autoImplicit false

/-!
# Places in a text

A cursor stands at a place in a text. It knows the line and the column of the place, and what is
left of the text from there on.

## Main definitions

* `Messenger.Yaml.Mark`: a line and a column.
* `Messenger.Yaml.Problem`: what is wrong with a text, and where.
* `Messenger.Yaml.Cursor`: a place and what is left.
* `Messenger.Yaml.Cursor.skip`, `Messenger.Yaml.Cursor.skipBreak`: going on.
-/

namespace Messenger.Yaml

/-- A line and a column, counted from zero. -/
structure Mark where
  line : Nat
  column : Nat
  deriving DecidableEq, Repr, Inhabited

/-- The very beginning of a text. -/
def Mark.origin : Mark := ⟨0, 0⟩

/-- The mark in words, counted from one. -/
def Mark.render (m : Mark) : String :=
  "line " ++ toString (m.line + 1) ++ " column " ++ toString (m.column + 1)

/-- What is wrong with a text, and where. -/
structure Problem where
  cause : String
  mark : Mark := .origin
  /-- How many bytes are in front of a character that is not allowed. -/
  offset : Nat := 0
  /-- What was being read, and where it begins. -/
  context : Option (String × Mark) := none
  deriving DecidableEq, Repr, Inhabited

namespace Problem

/-- Where something is, in words; nothing for the very beginning of a text. -/
def whereabouts (m : Mark) : String :=
  if m = .origin then "" else " at " ++ m.render

/-- The problem in words. -/
def message (p : Problem) : String :=
  let place :=
    if p.mark = .origin ∧ p.offset ≠ 0 then " at position " ++ toString p.offset
    else whereabouts p.mark
  let context := match p.context with
    | none => ""
    | some (what, mark) => ", " ++ what ++ (if mark = p.mark then "" else whereabouts mark)
  p.cause ++ place ++ context

end Problem

/-- A place in a text. -/
structure Cursor where
  /-- How many bytes are in front of the place. -/
  index : Nat
  line : Nat
  column : Nat
  /-- What is left. -/
  rest : List Char
  /-- How many characters the whole text has. Never more than so many are left. -/
  size : Nat
  deriving DecidableEq, Repr, Inhabited

/-- A character that ends a line. -/
def isBreak (c : Char) : Bool :=
  c = '\n' || c = '\r' || c = '\u0085' || c = '\u2028' || c = '\u2029'

/-- A space or a tab. -/
def isBlank (c : Char) : Bool :=
  c = ' ' || c = '\t'

/-- A character of a name: an anchor, a handle or a directive. -/
def isWordChar (c : Char) : Bool :=
  c.isAlphanum || c = '_' || c = '-'

/-- The text is at its end, at the end of a line or at a blank. -/
def atGap : List Char → Bool
  | [] => true
  | c :: _ => isBlank c || isBreak c

/-- The text is at its end or at the end of a line. -/
def atLineEnd : List Char → Bool
  | [] => true
  | c :: _ => isBreak c

namespace Cursor

/-- The beginning of a text. -/
def start (text : List Char) : Cursor := ⟨0, 0, 0, text, text.length⟩

/-- The mark of the place. -/
def mark (c : Cursor) : Mark := ⟨c.line, c.column⟩

/-- How many bytes a text takes. -/
def byteSize (text : List Char) : Nat :=
  text.foldl (fun n c => n + c.utf8Size) 0

/-- Goes on by so many characters of the same line. -/
def skip (n : Nat) (c : Cursor) : Cursor :=
  { c with
    index := c.index + byteSize (c.rest.take n)
    column := c.column + n
    rest := c.rest.drop n }

/-- Goes on over all characters of a kind, none of which ends a line. -/
def skipWhile (p : Char → Bool) (c : Cursor) : Cursor :=
  c.skip (c.rest.takeWhile p).length

/-- Goes on over the end of a line, which two characters can make up. -/
def skipBreak (c : Cursor) : Cursor :=
  match c.rest with
  | '\r' :: '\n' :: rest =>
    { c with index := c.index + 2, line := c.line + 1, column := 0, rest := rest }
  | b :: rest =>
    if isBreak b then
      { c with index := c.index + b.utf8Size, line := c.line + 1, column := 0, rest := rest }
    else c
  | [] => c

/-- What the end of a line stands for. -/
def breakText (c : Cursor) : List Char :=
  match c.rest with
  | b :: _ => if b = '\u2028' ∨ b = '\u2029' then [b] else if isBreak b then ['\n'] else []
  | [] => []

/-- Goes on over the rest of a line that may hold a comment only. -/
def skipComment (c : Cursor) : Cursor :=
  match c.rest with
  | '#' :: _ => c.skipWhile (!isBreak ·)
  | _ => c

/-- The next character. -/
def head? (c : Cursor) : Option Char := c.rest.head?

/-- Goes on over a byte order mark at the beginning of a line. It takes a column all the same. -/
def skipByteOrderMark (c : Cursor) : Cursor :=
  if c.column = 0 ∧ c.head? = some '\ufeff' then c.skip 1 else c

/-- A line begins here with a mark between documents: three times the same sign and a gap. -/
def atDocumentMark (sign : Char) (c : Cursor) : Bool :=
  c.column = 0 && c.rest.take 3 == [sign, sign, sign] && atGap (c.rest.drop 3)

/-- A document begins or ends here. -/
def atDocumentEdge (c : Cursor) : Bool :=
  c.atDocumentMark '-' || c.atDocumentMark '.'

/-- A problem at this place with what began at a mark. -/
def problem (c : Cursor) (context : String) (began : Mark) (cause : String) : Problem :=
  { cause := cause, mark := c.mark, context := some (context, began) }

/-- A problem at this place. -/
def bareProblem (c : Cursor) (cause : String) : Problem :=
  { cause := cause, mark := c.mark }

end Cursor

end Messenger.Yaml
