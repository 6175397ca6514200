import Messenger.Yaml.Scalar
import Messenger.Yaml.Token

set_option relaxedAutoImplicit false
set_option autoImplicit false

/-!
# Reading tokens

Indentation makes tokens of its own, and whether a scalar is a key is known only at the colon behind
it. So the tokens that have been read wait in a queue until it is certain that no further token goes
in front of them.

## Main definitions

* `Messenger.Yaml.Lexer`: what has been read, and what is needed to read on.
* `Messenger.Yaml.Lexer.next`: reads the next token into the queue.
* `Messenger.Yaml.Lexer.peek`: the first token that is certain.
* `Messenger.Yaml.Lexer.take`: takes it out of the queue.

## Design

A key that is written without a sign must stand on one line, in at most 1024 bytes. Where a
token may begin such a key its number is noted, one for every level of brackets; the sign of a key
is put in front of it when its colon comes. On a line that continues a mapping a key is required.
-/

namespace Messenger.Yaml

/-- A token that may begin a key without a sign. -/
structure KeyPlace where
  /-- How many tokens are in front of it. -/
  number : Nat
  /-- There must be a key. -/
  required : Bool
  index : Nat
  mark : Mark
  deriving DecidableEq, Repr, Inhabited

/-- What has been read, and what is needed to read on. -/
structure Lexer where
  cursor : Cursor
  queue : List Placed := []
  /-- How many tokens have been taken out of the queue. -/
  taken : Nat := 0
  /-- The columns of the collections that are open by indentation, the innermost first. -/
  indents : List Nat := []
  /-- Where a key may have begun: at the innermost level of brackets, and at the levels outside. -/
  keyPlace : Option KeyPlace := none
  outer : List (Option KeyPlace) := []
  /-- A key without a sign may begin here. -/
  keyAllowed : Bool := true
  deriving Repr, Inhabited

namespace Lexer

/-- The beginning of a text. -/
def start (text : List Char) : Lexer := { cursor := .start text }

/-- Within brackets. -/
def inFlow (l : Lexer) : Bool := !l.outer.isEmpty

/-- The problem of a key that has no colon. -/
def noColon (k : KeyPlace) (l : Lexer) : Problem :=
  l.cursor.problem "while scanning a simple key" k.mark "could not find expected ':'"

/-- A key that begins at a place can no longer be one. -/
def isStale (l : Lexer) (k : KeyPlace) : Bool :=
  k.mark.line < l.cursor.line || k.index + 1024 < l.cursor.index

/-- A place without what can no longer be a key there. -/
def dropStale (l : Lexer) : Option KeyPlace → Except Problem (Option KeyPlace)
  | none => .ok none
  | some k =>
    if l.isStale k then (if k.required then .error (l.noColon k) else .ok none) else .ok (some k)

/-- Forgets the places at which a key can no longer begin. -/
def forgetStale (l : Lexer) : Except Problem Lexer := do
  if !((l.keyPlace :: l.outer).any fun k => k.any l.isStale) then return l
  let outer ← l.outer.reverse.mapM l.dropStale
  let keyPlace ← l.dropStale l.keyPlace
  return { l with outer := outer.reverse, keyPlace := keyPlace }

/-- Forgets the innermost place of a key. -/
def forgetKey (l : Lexer) : Except Problem Lexer :=
  match l.keyPlace with
  | some k => if k.required then .error (l.noColon k) else .ok { l with keyPlace := none }
  | none => .ok l

/-- Notes that a key may begin here, if that is allowed. -/
def noteKey (l : Lexer) : Except Problem Lexer :=
  if l.keyAllowed then
    let required := !l.inFlow && l.indents.head? = some l.cursor.column
    let k : KeyPlace := ⟨l.taken + l.queue.length, required, l.cursor.index, l.cursor.mark⟩
    (l.forgetKey).map fun l => { l with keyPlace := some k }
  else .ok l

/-- Puts a token behind all others. -/
def push (t : Placed) (l : Lexer) : Lexer :=
  { l with queue := l.queue ++ [t] }

/-- Puts a token at the place that a number of tokens in front of it gives. -/
def insert (number : Nat) (t : Placed) (l : Lexer) : Lexer :=
  let n := number - l.taken
  { l with queue := l.queue.take n ++ t :: l.queue.drop n }

/-- Opens a collection by indentation, if the column is behind all that are open. -/
def indent (column : Nat) (place : Lexer → Lexer) (l : Lexer) : Lexer :=
  if l.inFlow then l
  else if l.indents.head?.all (· < column) then place { l with indents := column :: l.indents }
  else l

/-- The tokens at the ends of the collections whose columns are behind the given one. -/
def closeIndents (column : Option Nat) (mark : Mark) : List Nat → List Placed × List Nat
  | [] => ([], [])
  | n :: rest =>
    if column.all (· < n) then
      let (tokens, left) := closeIndents column mark rest
      (⟨.blockEnd, mark, mark⟩ :: tokens, left)
    else ([], n :: rest)

/-- Closes the collections whose columns are behind the given one, or all of them. -/
def unindent (column : Option Nat) (l : Lexer) : Lexer :=
  if l.inFlow then l
  else
    let (tokens, indents) := closeIndents column l.cursor.mark l.indents
    { l with queue := l.queue ++ tokens, indents := indents }

/-! ### From token to token -/

/-- Skips blanks, comments and ends of lines, so many lines at most. Where a key may begin, a tab is
no blank. -/
def skipGaps : Nat → Lexer → Lexer
  | 0, l => l
  | n + 1, l =>
    let tabs := l.inFlow || !l.keyAllowed
    let c := l.cursor.skipByteOrderMark.skipWhile fun c => c = ' ' || (tabs && c = '\t')
    let c := c.skipComment
    if c.head?.any isBreak then
      skipGaps n { l with cursor := c.skipBreak, keyAllowed := l.keyAllowed || !l.inFlow }
    else { l with cursor := c }

/-- Reads a sign of so many characters. -/
def sign (length : Nat) (token : Token) (l : Lexer) : Lexer :=
  let c := l.cursor.skip length
  { l with cursor := c }.push ⟨token, l.cursor.mark, c.mark⟩

/-- The end of the text. -/
def readEnd (l : Lexer) : Except Problem Lexer := do
  let c := l.cursor
  let c := if c.column = 0 then c else { c with column := 0, line := c.line + 1 }
  let l ← ({ l with cursor := c }.unindent none).forgetKey
  return { l with keyAllowed := false }.push ⟨.streamEnd, c.mark, c.mark⟩

/-- A mark between documents. -/
def readDocumentMark (token : Token) (l : Lexer) : Except Problem Lexer := do
  let l ← (l.unindent none).forgetKey
  return { l with keyAllowed := false }.sign 3 token

/-- A directive. -/
def readDirectiveLine (l : Lexer) : Except Problem Lexer := do
  let l ← (l.unindent none).forgetKey
  let (t, c) ← readDirective l.cursor
  return { l with keyAllowed := false, cursor := c }.push t

/-- An opening bracket. -/
def readOpening (token : Token) (l : Lexer) : Except Problem Lexer := do
  let l ← l.noteKey
  return { l with
    outer := l.keyPlace :: l.outer
    keyPlace := none
    keyAllowed := true }.sign 1 token

/-- A closing bracket. -/
def readClosing (token : Token) (l : Lexer) : Except Problem Lexer := do
  let l ← l.forgetKey
  let l := match l.outer with
    | k :: rest => { l with keyPlace := k, outer := rest }
    | [] => l
  return { l with keyAllowed := false }.sign 1 token

/-- A comma. -/
def readComma (l : Lexer) : Except Problem Lexer := do
  let l ← l.forgetKey
  return { l with keyAllowed := true }.sign 1 .flowEntry

/-- The token at the beginning of a collection at the cursor. -/
def opening (token : Token) (l : Lexer) : Placed :=
  ⟨token, l.cursor.mark, l.cursor.mark⟩

/-- A dash in front of an item. -/
def readDash (l : Lexer) : Except Problem Lexer := do
  if !l.inFlow && !l.keyAllowed then
    throw (l.cursor.bareProblem "block sequence entries are not allowed in this context")
  let l := l.indent l.cursor.column (push (l.opening .blockSequenceStart))
  let l ← l.forgetKey
  return { l with keyAllowed := true }.sign 1 .blockEntry

/-- A question mark in front of a key. -/
def readKeySign (l : Lexer) : Except Problem Lexer := do
  if !l.inFlow && !l.keyAllowed then
    throw (l.cursor.bareProblem "mapping keys are not allowed in this context")
  let l := l.indent l.cursor.column (push (l.opening .blockMappingStart))
  let l ← l.forgetKey
  return { l with keyAllowed := !l.inFlow }.sign 1 .key

/-- A colon in front of a value. -/
def readColon (l : Lexer) : Except Problem Lexer :=
  match l.keyPlace with
  | some k =>
    let l := l.insert k.number ⟨.key, k.mark, k.mark⟩
    let l := l.indent k.mark.column (insert k.number ⟨.blockMappingStart, k.mark, k.mark⟩)
    .ok ({ l with keyPlace := none, keyAllowed := false }.sign 1 .value)
  | none =>
    if !l.inFlow && !l.keyAllowed then
      .error (l.cursor.bareProblem "mapping values are not allowed in this context")
    else
      let l := l.indent l.cursor.column (push (l.opening .blockMappingStart))
      .ok ({ l with keyAllowed := !l.inFlow }.sign 1 .value)

/-- A token that can begin a key, by the function that reads it. -/
def readItem (read : Cursor → Except Problem (Token × Cursor)) (l : Lexer) :
    Except Problem Lexer := do
  let l ← l.noteKey
  let (token, c) ← read l.cursor
  return { l with keyAllowed := false, cursor := c }.push ⟨token, l.cursor.mark, c.mark⟩

/-- A scalar that stands as it is. -/
def readPlainScalar (l : Lexer) : Except Problem Lexer := do
  let l ← l.noteKey
  let indent := match l.indents.head? with
    | some n => n + 1
    | none => 0
  let (text, broken, c) ← readPlain indent l.inFlow l.cursor
  return { l with keyAllowed := broken, cursor := c }.push
    ⟨.scalar text .plain, l.cursor.mark, c.mark⟩

/-- A block. -/
def readBlockScalar (literal : Bool) (l : Lexer) : Except Problem Lexer := do
  let l ← l.forgetKey
  let (text, c) ← readBlock literal l.indents.head? l.cursor
  return { l with keyAllowed := true, cursor := c }.push
    ⟨.scalar text (if literal then .literal else .folded), l.cursor.mark, c.mark⟩

/-- A character that begins no scalar that stands as it is, unless it is a dash, a question mark or
a colon with something behind it. -/
def isIndicator (c : Char) : Bool :=
  "-?:,[]\x7b\x7d#&*!|>'\"%@`".toList.contains c

/-- A scalar that stands as it is can begin here. -/
def beginsPlain (l : Lexer) : Bool :=
  match l.cursor.rest with
  | [] => false
  | c :: rest =>
    !(isBlank c || isBreak c || isIndicator c) || (c = '-' && !rest.head?.any isBlank) ||
      (!l.inFlow && (c = '?' || c = ':') && !atGap rest)

/-- Reads the token at the cursor, which stands at none of the marks between documents. -/
def readHere (l : Lexer) : Except Problem Lexer :=
  let c := l.cursor
  let gap := atGap (c.rest.drop 1)
  match c.head? with
  | none => l.readEnd
  | some '[' => l.readOpening .flowSequenceStart
  | some '{' => l.readOpening .flowMappingStart
  | some ']' => l.readClosing .flowSequenceEnd
  | some '}' => l.readClosing .flowMappingEnd
  | some ',' => l.readComma
  | some '*' =>
    l.readItem fun c => (readName "while scanning an alias" c).map fun (n, c) => (.alias n, c)
  | some '&' =>
    l.readItem fun c => (readName "while scanning an anchor" c).map fun (n, c) => (.anchor n, c)
  | some '!' => l.readItem (readTag l.inFlow)
  | some '\'' => l.readItem fun c => (readQuoted true c).map fun (s, c) => (.scalar s .quoted, c)
  | some '"' => l.readItem fun c => (readQuoted false c).map fun (s, c) => (.scalar s .quoted, c)
  | some x =>
    if x = '-' && gap then l.readDash
    else if x = '?' && (l.inFlow || gap) then l.readKeySign
    else if x = ':' && (l.inFlow || gap) then l.readColon
    else if x = '|' && !l.inFlow then l.readBlockScalar true
    else if x = '>' && !l.inFlow then l.readBlockScalar false
    else if l.beginsPlain then l.readPlainScalar
    else
      .error (c.problem "while scanning for the next token" c.mark
        "found character that cannot start any token")

/-- Reads the next token into the queue, with the ends that indentation stands for. -/
def next (l : Lexer) : Except Problem Lexer := do
  let l := l.skipGaps (l.cursor.size + 1)
  let l ← l.forgetStale
  let l := l.unindent (some l.cursor.column)
  if l.cursor.column = 0 && l.cursor.head? = some '%' then l.readDirectiveLine
  else if l.cursor.atDocumentMark '-' then l.readDocumentMark .documentStart
  else if l.cursor.atDocumentMark '.' then l.readDocumentMark .documentEnd
  else l.readHere

/-- The first token of the queue may begin a key. -/
def isUncertain (l : Lexer) : Bool :=
  (l.keyPlace :: l.outer).any fun k => k.any fun k => k.number = l.taken

/-- Reads until the first token is certain, so many tokens at most. -/
def settle : Nat → Lexer → Except Problem (Placed × Lexer)
  | 0, l => .error (l.cursor.bareProblem "")
  | n + 1, l =>
    match l.queue with
    | [] => l.next >>= settle n
    | t :: _ => do
      let l ← l.forgetStale
      if l.isUncertain then l.next >>= settle n else return (t, l)

/-- The first token that is certain. Every token that is read takes a character at least, but for
the last. -/
def peek (l : Lexer) : Except Problem (Placed × Lexer) :=
  settle (l.cursor.size + 3) l

/-- Takes the first token out of the queue. -/
def take (l : Lexer) : Lexer :=
  { l with queue := l.queue.tail, taken := l.taken + 1 }

end Lexer

end Messenger.Yaml
