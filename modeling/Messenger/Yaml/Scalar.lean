import Messenger.Yaml.Cursor

set_option relaxedAutoImplicit false
set_option autoImplicit false

/-!
# Scalars

A scalar is a text within a document. It stands there as it is, or between quotes, or as a block of
its own lines. The end of a line within a scalar stands for a space unless an empty line follows it;
in a literal block every line stays as it is.

## Main definitions

* `Messenger.Yaml.Gap`: blanks and ends of lines between two words, and what they stand for.
* `Messenger.Yaml.readPlain`: a scalar that stands as it is.
* `Messenger.Yaml.readQuoted`: a scalar between quotes.
* `Messenger.Yaml.readBlock`: a block.
-/

namespace Messenger.Yaml

/-! ### Gaps -/

/-- Blanks and ends of lines between two words. -/
structure Gap where
  /-- A line has ended in it. -/
  broken : Bool := false
  /-- The blanks, if no line has ended, the last first. -/
  blanks : List Char := []
  /-- What the end of the first line stands for. -/
  first : List Char := []
  /-- What the ends of further lines stand for, the last first. -/
  more : List Char := []
  deriving DecidableEq, Repr, Inhabited

namespace Gap

/-- What a gap stands for. -/
def text (g : Gap) : List Char :=
  if g.broken then
    if g.first = ['\n'] then (if g.more.isEmpty then [' '] else g.more.reverse)
    else g.first ++ g.more.reverse
  else g.blanks.reverse

/-- Reads a gap of at most so many characters. A tab in front of the column `indent` of a further
line is refused; then the cursor stands at it. -/
def read (indent : Nat) : Nat → Gap → Cursor → Except Cursor (Gap × Cursor)
  | 0, g, c => .ok (g, c)
  | n + 1, g, c =>
    match c.head? with
    | none => .ok (g, c)
    | some x =>
      if isBlank x then
        if g.broken then
          if c.column < indent ∧ x = '\t' then .error c else read indent n g (c.skip 1)
        else read indent n { g with blanks := x :: g.blanks } (c.skip 1)
      else if isBreak x then
        if g.broken then read indent n { g with more := c.breakText ++ g.more } c.skipBreak
        else read indent n { g with broken := true, first := c.breakText } c.skipBreak
      else .ok (g, c)

end Gap

/-! ### Scalars that stand as they are -/

/-- The signs between the items of a sequence or a mapping in brackets. -/
def isFlowSign (c : Char) : Bool :=
  c = ',' || c = '[' || c = ']' || c = '{' || c = '}'

/-- How many characters there are up to the next gap or the end of the scalar, behind a number of
them, and whether a colon stands where none can be. -/
def plainLength (flow : Bool) : Nat → List Char → Nat × Bool
  | n, [] => (n, false)
  | n, c :: rest =>
    if isBlank c || isBreak c then (n, false)
    else if flow && c = ':' && rest.head?.any (fun d => d = '?' || isFlowSign d) then (n, true)
    else if (c = ':' && atGap rest) || (flow && isFlowSign c) then (n, false)
    else plainLength flow (n + 1) rest

/-- Reads words and gaps, so many at most, behind a text, the last character first, and a gap. Gives
the text, and whether a line has ended behind its last word. -/
def readPlainWords (indent : Nat) (flow : Bool) (began : Mark) :
    Nat → List Char → Gap → Cursor → Except Problem (List Char × Bool × Cursor)
  | 0, text, gap, c => .ok (text.reverse, gap.broken, c)
  | n + 1, text, gap, c =>
    if c.atDocumentEdge || c.head? = some '#' then .ok (text.reverse, gap.broken, c)
    else
      let (length, bad) := plainLength flow 0 c.rest
      let word := gap.text ++ c.rest.take length
      let c := c.skip length
      let (text, gap) := if length = 0 then (text, gap) else (word.reverse ++ text, {})
      if bad then .error (c.problem "while scanning a plain scalar" began "found unexpected ':'")
      else if c.rest.isEmpty || !atGap c.rest then .ok (text.reverse, gap.broken, c)
      else
        match Gap.read indent c.size gap c with
        | .error c =>
          .error (c.problem "while scanning a plain scalar" began
            "found a tab character that violates indentation")
        | .ok (gap, c) =>
          if !flow && c.column < indent then .ok (text.reverse, gap.broken, c)
          else readPlainWords indent flow began n text gap c

/-- Reads a scalar that stands as it is. Outside of brackets its further lines begin at the column
`indent` at least. Gives the text, and whether a line has ended behind it. -/
def readPlain (indent : Nat) (flow : Bool) (c : Cursor) :
    Except Problem (List Char × Bool × Cursor) :=
  readPlainWords indent flow c.mark (c.size + 1) [] {} c

/-! ### Scalars between quotes -/

/-- The character that an escape of one letter stands for. -/
def letterEscape? : Char → Option Char
  | '0' => some '\x00'
  | 'a' => some '\x07'
  | 'b' => some '\x08'
  | 't' | '\t' => some '\t'
  | 'n' => some '\n'
  | 'v' => some '\x0b'
  | 'f' => some '\x0c'
  | 'r' => some '\r'
  | 'e' => some '\x1b'
  | ' ' => some ' '
  | '"' => some '"'
  | '/' => some '/'
  | '\\' => some '\\'
  | 'N' => some '\u0085'
  | '_' => some '\u00a0'
  | 'L' => some '\u2028'
  | 'P' => some '\u2029'
  | _ => none

/-- How many digits follow an escape by number. -/
def escapeLength? : Char → Option Nat
  | 'x' => some 2
  | 'u' => some 4
  | 'U' => some 8
  | _ => none

/-- Reads an escape at its backslash. -/
def readEscape (began : Mark) (c : Cursor) : Except Problem (Char × Cursor) :=
  let refuse (c : Cursor) (cause : String) : Except Problem (Char × Cursor) :=
    .error (c.problem "while parsing a quoted scalar" began cause)
  match c.rest.drop 1 with
  | [] => refuse c "found unknown escape character"
  | e :: digits =>
    match letterEscape? e, escapeLength? e with
    | some x, _ => .ok (x, c.skip 2)
    | none, none => refuse c "found unknown escape character"
    | none, some length =>
      let c := c.skip 2
      let code := digits.take length
      match if code.length = length then Text.readNat? 16 code else none with
      | none => refuse c "did not find expected hexadecimal number"
      | some n =>
        if n.isValidChar then .ok (Char.ofNat n, c.skip length)
        else refuse c "found invalid Unicode character escape code"

/-- The quote of a kind of scalar. -/
def quoteOf (single : Bool) : Char := if single then '\'' else '"'

/-- Reads the characters up to the next gap or quote, so many at most, behind a text. The text is
given with its last character first, before and after. Gives also whether an escaped end of a line
was the last that has been read. -/
def readQuotedWord (single : Bool) (began : Mark) :
    Nat → List Char → Cursor → Except Problem (List Char × Bool × Cursor)
  | 0, text, c => .ok (text, false, c)
  | n + 1, text, c =>
    match c.rest with
    | [] => .ok (text, false, c)
    | x :: rest =>
      if isBlank x || isBreak x then .ok (text, false, c)
      else if single && x = '\'' && rest.head? = some '\'' then
        readQuotedWord single began n ('\'' :: text) (c.skip 2)
      else if x = quoteOf single then .ok (text, false, c)
      else if !single && x = '\\' then
        if rest.head?.any isBreak then .ok (text, true, (c.skip 1).skipBreak)
        else
          match readEscape began c with
          | .error p => .error p
          | .ok (y, c) => readQuotedWord single began n (y :: text) c
      else readQuotedWord single began n (x :: text) (c.skip 1)

/-- Reads words and gaps up to the quote at the end, so many at most, behind a text, the last
character first. -/
def readQuotedWords (single : Bool) (began : Mark) :
    Nat → List Char → Cursor → Except Problem (List Char × Cursor)
  | 0, text, c => .ok (text.reverse, c)
  | n + 1, text, c =>
    let refuse (cause : String) : Except Problem (List Char × Cursor) :=
      .error (c.problem "while scanning a quoted scalar" began cause)
    if c.atDocumentEdge then refuse "found unexpected document indicator"
    else if c.rest.isEmpty then refuse "found unexpected end of stream"
    else
      match readQuotedWord single began c.size text c with
      | .error p => .error p
      | .ok (text, escaped, c) =>
        if c.head? = some (quoteOf single) then .ok (text.reverse, c.skip 1)
        else
          match Gap.read 0 c.size { broken := escaped } c with
          | .error c => .ok (text.reverse, c)
          | .ok (gap, c) => readQuotedWords single began n (gap.text.reverse ++ text) c

/-- Reads a scalar between quotes, at its first quote. -/
def readQuoted (single : Bool) (c : Cursor) : Except Problem (List Char × Cursor) :=
  readQuotedWords single c.mark (c.size + 1) [] (c.skip 1)

/-! ### Blocks -/

/-- What becomes of the ends of lines behind the last line of a block. -/
inductive Chomping
  /-- None stays. -/
  | strip
  /-- One stays. -/
  | clip
  /-- All stay. -/
  | keep
  deriving DecidableEq, Repr, Inhabited

/-- The sign of a chomping. -/
def Chomping.ofSign? : Char → Option Chomping
  | '+' => some keep
  | '-' => some strip
  | _ => none

/-- Reads the digit that tells by how much a block is indented. -/
def readIncrement (began : Mark) (c : Cursor) : Except Problem (Nat × Cursor) :=
  match c.head? with
  | some d =>
    if d = '0' then
      .error (c.problem "while scanning a block scalar" began
        "found an indentation indicator equal to 0")
    else if d.isDigit then .ok (d.toNat - '0'.toNat, c.skip 1)
    else .ok (0, c)
  | none => .ok (0, c)

/-- Reads the sign of a chomping, if there is one. -/
def readChomping (c : Cursor) : Option Chomping × Cursor :=
  match c.head?.bind Chomping.ofSign? with
  | some chomping => (some chomping, c.skip 1)
  | none => (none, c)

/-- Reads chomping and increment in either order. -/
def readBlockHeader (began : Mark) (c : Cursor) :
    Except Problem (Chomping × Nat × Cursor) :=
  match readChomping c with
  | (some chomping, c) => (readIncrement began c).map fun (n, c) => (chomping, n, c)
  | (none, c) =>
    (readIncrement began c).map fun (n, c) =>
      if n = 0 then (.clip, 0, c)
      else
        let (chomping, c) := readChomping c
        (chomping.getD .clip, n, c)

/-- Reads the indentation of lines of a block and the ends of its empty lines, so many at most,
behind the ends of others, the last first. While the indentation is not known it is zero; `most` is
the most that has been seen. -/
def readEmptyLines (began : Mark) (indent : Nat) :
    Nat → Nat → List Char → Cursor → Except Problem (Nat × List Char × Cursor)
  | 0, most, breaks, c => .ok (most, breaks.reverse, c)
  | n + 1, most, breaks, c =>
    let spaces := (c.rest.takeWhile (· = ' ')).length
    let c := c.skip (if indent = 0 then spaces else min spaces (indent - c.column))
    let most := max most c.column
    if (indent = 0 || c.column < indent) && c.head? = some '\t' then
      .error (c.problem "while scanning a block scalar" began
        "found a tab character where an indentation space is expected")
    else if c.head?.any isBreak then
      readEmptyLines began indent n most (c.breakText ++ breaks) c.skipBreak
    else .ok (most, breaks.reverse, c)

/-- What has been read of a block. -/
structure Block where
  /-- The text, the last character first. -/
  text : List Char := []
  /-- The end of the last line. -/
  last : List Char := []
  /-- The ends of the empty lines behind it. -/
  empty : List Char := []
  /-- The last line begins with a blank. -/
  indented : Bool := false
  deriving Repr, Inhabited

/-- What stands between the last line and a further one that begins with a blank, or does not. -/
def Block.gap (literal blank : Bool) (b : Block) : List Char :=
  if !literal && b.last = ['\n'] && !b.indented && !blank then
    (if b.empty.isEmpty then [' '] else b.empty)
  else b.last ++ b.empty

/-- Reads the lines of a block, so many at most. -/
def readBlockLines (literal : Bool) (began : Mark) (indent : Nat) :
    Nat → Block → Cursor → Except Problem (Block × Cursor)
  | 0, b, c => .ok (b, c)
  | n + 1, b, c =>
    if c.column = indent && !c.rest.isEmpty then
      let blank := c.head?.any isBlank
      let line := c.rest.takeWhile (!isBreak ·)
      let text := (b.gap literal blank ++ line).reverse ++ b.text
      let c := c.skip line.length
      let last := c.breakText
      match readEmptyLines began indent (c.size + 1) 0 [] c.skipBreak with
      | .error p => .error p
      | .ok (_, empty, c) =>
        readBlockLines literal began indent n ⟨text, last, empty, blank⟩ c
    else .ok (b, c)

/-- Reads a block at its sign, within lines that are indented by `parent`; outside of all lines
that is nothing. -/
def readBlock (literal : Bool) (parent : Option Nat) (c : Cursor) :
    Except Problem (List Char × Cursor) := do
  let began := c.mark
  let (chomping, increment, c) ← readBlockHeader began (c.skip 1)
  let c := (c.skipWhile isBlank).skipComment
  if !atLineEnd c.rest then
    throw (c.problem "while scanning a block scalar" began
      "did not find expected comment or line break")
  let given := if increment = 0 then 0 else parent.getD 0 + increment
  let (most, empty, c) ← readEmptyLines began given (c.size + 1) 0 [] c.skipBreak
  let least := match parent with
    | some n => n + 1
    | none => 1
  let indent := if given = 0 then max most least else given
  let (b, c) ← readBlockLines literal began indent (c.size + 1) { empty := empty } c
  let text := match chomping with
    | .strip => b.text.reverse
    | .clip => b.text.reverse ++ b.last
    | .keep => b.text.reverse ++ b.last ++ b.empty
  return (text, c)

end Messenger.Yaml
