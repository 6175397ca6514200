import Messenger.Yaml.Cursor

set_option relaxedAutoImplicit false
set_option autoImplicit false

/-!
# Tokens

The words of a document: the signs, the names behind signs, the scalars, and the beginnings and ends
that indentation stands for.

## Main definitions

* `Messenger.Yaml.Token`: the tokens.
* `Messenger.Yaml.Placed`: a token with its place.
* `Messenger.Yaml.readName`, `Messenger.Yaml.readTag`, `Messenger.Yaml.readDirective`: the tokens
  behind signs.
-/

namespace Messenger.Yaml

/-- The bytes of a tag. Escapes can make any bytes of them. -/
abbrev TagText := List UInt8

/-- The bytes of a text. -/
def bytesOf (s : List Char) : TagText :=
  s.flatMap String.utf8EncodeChar

/-- How a scalar is written. -/
inductive Style
  /-- As it is. -/
  | plain
  | quoted
  /-- As a block whose ends of lines stand for themselves. -/
  | literal
  | folded
  deriving DecidableEq, Repr, Inhabited

/-- A token. -/
inductive Token
  | streamEnd
  /-- The version of the format. -/
  | version (major minor : Nat)
  /-- A handle, and what it stands for at the front of tags. -/
  | shorthand (handle start : TagText)
  | documentStart
  | documentEnd
  | blockSequenceStart
  | blockMappingStart
  | blockEnd
  | flowSequenceStart
  | flowSequenceEnd
  | flowMappingStart
  | flowMappingEnd
  | blockEntry
  | flowEntry
  | key
  | value
  | alias (name : List Char)
  | anchor (name : List Char)
  | tag (handle suffix : TagText)
  | scalar (text : List Char) (style : Style)
  deriving DecidableEq, Repr, Inhabited

/-- A token with the marks of its beginning and its end. -/
structure Placed where
  token : Token
  start : Mark
  stop : Mark
  deriving DecidableEq, Repr, Inhabited

/-! ### Names -/

/-- The characters that can follow a name directly. -/
def endsName : List Char → Bool
  | [] => true
  | c :: _ => isBlank c || isBreak c || "?:,]\x7d%@`".toList.contains c

/-- Reads the name behind the sign of an anchor or an alias. -/
def readName (context : String) (c : Cursor) : Except Problem (List Char × Cursor) :=
  let began := c.mark
  let c := c.skip 1
  let name := c.rest.takeWhile isWordChar
  let c := c.skip name.length
  if name.isEmpty || !endsName c.rest then
    .error (c.problem context began "did not find expected alphabetic or numeric character")
  else .ok (name, c)

/-! ### Tags -/

/-- A character that can stand in a tag as it is. -/
def isTagChar (verbatim : Bool) (c : Char) : Bool :=
  isWordChar c || ";/?:@&=+$.!~*'()".toList.contains c ||
    (verbatim && (c = ',' || c = '[' || c = ']'))

/-- How many bytes a character has that begins with the given byte. -/
def byteCount (first : Nat) : Nat :=
  if first < 0x80 then 1
  else if first / 0x20 = 6 then 2
  else if first / 0x10 = 14 then 3
  else if first / 0x08 = 30 then 4
  else 0

/-- Reads an escaped byte. -/
def readByte (context : String) (began : Mark) (c : Cursor) : Except Problem (Nat × Cursor) :=
  let refuse : Except Problem (Nat × Cursor) :=
    .error (c.problem context began "did not find URI escaped octet")
  match c.rest with
  | '%' :: a :: b :: _ =>
    match Text.digitValue? 16 a, Text.digitValue? 16 b with
    | some m, some n => .ok (16 * m + n, c.skip 3)
    | _, _ => refuse
  | _ => refuse

/-- Reads the escaped bytes of a character behind its first, so many. -/
def readTrailing (context : String) (began : Mark) :
    Nat → TagText → Cursor → Except Problem (TagText × Cursor)
  | 0, bytes, c => .ok (bytes, c)
  | n + 1, bytes, c =>
    match readByte context began c with
    | .error p => .error p
    | .ok (b, next) =>
      if b / 0x40 ≠ 2 then
        .error (c.problem context began "found an incorrect trailing UTF-8 octet")
      else readTrailing context began n (bytes ++ [UInt8.ofNat b]) next

/-- Reads an escaped character. -/
def readEscaped (context : String) (began : Mark) (c : Cursor) :
    Except Problem (TagText × Cursor) :=
  match readByte context began c with
  | .error p => .error p
  | .ok (b, next) =>
    if byteCount b = 0 then
      .error (c.problem context began "found an incorrect leading UTF-8 octet")
    else readTrailing context began (byteCount b - 1) [UInt8.ofNat b] next

/-- Reads the characters of a tag, so many at most, behind some bytes. -/
def readTagChars (context : String) (verbatim : Bool) (began : Mark) :
    Nat → TagText → Cursor → Except Problem (TagText × Cursor)
  | 0, bytes, c => .ok (bytes, c)
  | n + 1, bytes, c =>
    match c.head? with
    | some '%' =>
      match readEscaped context began c with
      | .error p => .error p
      | .ok (more, c) => readTagChars context verbatim began n (bytes ++ more) c
    | some x =>
      if isTagChar verbatim x then
        readTagChars context verbatim began n (bytes ++ bytesOf [x]) (c.skip 1)
      else .ok (bytes, c)
    | none => .ok (bytes, c)

/-- Reads the characters of a tag behind what has been read as a handle, which was none. At least
one character is needed in all. A null ends the tag, whatever is behind it. -/
def readTagText (context : String) (verbatim : Bool) (began : Mark) (handle : List Char)
    (c : Cursor) : Except Problem (TagText × Cursor) :=
  match readTagChars context verbatim began (c.size + 1) (bytesOf (handle.drop 1)) c with
  | .error p => .error p
  | .ok (bytes, after) =>
    if handle.isEmpty && bytes.isEmpty then
      .error (after.problem context began "did not find expected tag URI")
    else .ok (bytes.takeWhile (· ≠ 0), after)

/-- Reads what may be the handle of a tag: an exclamation mark, a name and perhaps another
exclamation mark. -/
def readHandle (context : String) (began : Mark) (c : Cursor) :
    Except Problem (List Char × Cursor) :=
  if c.head? ≠ some '!' then .error (c.problem context began "did not find expected '!'")
  else
    let name := (c.rest.drop 1).takeWhile isWordChar
    let after := c.skip (name.length + 1)
    if after.head? = some '!' then .ok ('!' :: name ++ ['!'], after.skip 1)
    else .ok ('!' :: name, after)

/-- Two exclamation marks at least, one at each end. -/
def isHandle (handle : List Char) : Bool :=
  1 < handle.length && handle.getLast? = some '!'

/-- Reads handle and suffix of a tag. -/
def readTagParts (began : Mark) (c : Cursor) : Except Problem (TagText × TagText × Cursor) :=
  let context := "while parsing a tag"
  match c.rest with
  | '!' :: '<' :: _ =>
    match readTagText context true began [] (c.skip 2) with
    | .error p => .error p
    | .ok (suffix, c) =>
      if c.head? = some '>' then .ok ([], suffix, c.skip 1)
      else .error (c.problem "while scanning a tag" began "did not find the expected '>'")
  | _ =>
    match readHandle "while scanning a tag" began c with
    | .error p => .error p
    | .ok (handle, c) =>
      if isHandle handle then
        (readTagText context false began [] c).map fun (suffix, c) => (bytesOf handle, suffix, c)
      else
        (readTagText context false began handle c).map fun (suffix, c) =>
          if suffix.isEmpty then ([], bytesOf ['!'], c) else (bytesOf ['!'], suffix, c)

/-- Reads a tag. -/
def readTag (flow : Bool) (c : Cursor) : Except Problem (Token × Cursor) :=
  let began := c.mark
  match readTagParts began c with
  | .error p => .error p
  | .ok (handle, suffix, c) =>
    if atGap c.rest || (flow && c.head? = some ',') then .ok (.tag handle suffix, c)
    else
      .error
        (c.problem "while scanning a tag" began "did not find expected whitespace or line break")

/-! ### Directives -/

/-- Reads a number of a version. -/
def readVersionNumber (began : Mark) (c : Cursor) : Except Problem (Nat × Cursor) :=
  let context := "while scanning a %YAML directive"
  let digits := c.rest.takeWhile Char.isDigit
  if 9 < digits.length then
    .error ((c.skip 9).problem context began "found extremely long version number")
  else
    match Text.readNat? 10 digits with
    | none => .error (c.problem context began "did not find expected version number")
    | some n => .ok (n, c.skip digits.length)

/-- Reads the version of the format. -/
def readVersion (began : Mark) (c : Cursor) : Except Problem (Token × Cursor) := do
  let (major, c) ← readVersionNumber began (c.skipWhile isBlank)
  if c.head? ≠ some '.' then
    throw (c.problem "while scanning a %YAML directive" began
      "did not find expected digit or '.' character")
  let (minor, c) ← readVersionNumber began (c.skip 1)
  return (.version major minor, c)

/-- Reads a handle and what it stands for. -/
def readShorthand (began : Mark) (c : Cursor) : Except Problem (Token × Cursor) := do
  let context := "while scanning a %TAG directive"
  let (handle, c) ← readHandle "while scanning a tag directive" began (c.skipWhile isBlank)
  if handle ≠ ['!'] ∧ isHandle handle = false then
    throw (c.problem "while parsing a tag directive" began "did not find expected '!'")
  if !c.head?.any isBlank then
    throw (c.problem context began "did not find expected whitespace")
  let (start, c) ←
    readTagText "while parsing a %TAG directive" true began [] (c.skipWhile isBlank)
  if !atGap c.rest then
    throw (c.problem context began "did not find expected whitespace or line break")
  return (.shorthand (bytesOf handle) start, c)

/-- Reads a directive, which takes a line of its own. -/
def readDirective (c : Cursor) : Except Problem (Placed × Cursor) := do
  let context := "while scanning a directive"
  let began := c.mark
  let c := c.skip 1
  let name := c.rest.takeWhile isWordChar
  let c := c.skip name.length
  if name.isEmpty then throw (c.problem context began "could not find expected directive name")
  if !atGap c.rest then
    throw (c.problem context began "found unexpected non-alphabetical character")
  let (token, c) ←
    if name = "YAML".toList then readVersion began c
    else if name = "TAG".toList then readShorthand began c
    else throw (c.problem context began "found unknown directive name")
  let stop := c.mark
  let c := (c.skipWhile isBlank).skipComment
  if !atLineEnd c.rest then
    throw (c.problem context began "did not find expected comment or line break")
  return (⟨token, began, stop⟩, c.skipBreak)

end Messenger.Yaml
