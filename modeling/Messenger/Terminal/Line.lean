import Messenger.Request
import Messenger.Text.Blank
import Messenger.Text.Numeral

set_option relaxedAutoImplicit false
set_option autoImplicit false

/-!
# Lines that are typed

A line is a message, unless its first word is one of the five that give an order. Blanks around a
line do not count, and neither does a blank line.

## Main definitions

* `Messenger.Terminal.Line`: what a line asks for.
* `Messenger.Terminal.Line.read`: what the text of a line asks for.
* `Messenger.Terminal.linesOf`: the lines of an input.

## Main results

* `Messenger.Terminal.length_splitLines`: how many lines an input has.
-/

namespace Messenger.Terminal

/-- What a line asks for. -/
inductive Line
  | join (room : Room)
  /-- To leave the room that messages go to. -/
  | leave
  | reconnect
  /-- The network is there again. -/
  | online
  | logout
  /-- To send a message. -/
  | say (text : String)
  | nothing
  deriving DecidableEq, Repr, Inhabited

/-- The first word of a text, which reaches up to a space, and what stands behind the space. -/
def firstWord (s : List Char) : List Char × List Char :=
  (s.takeWhile (· != ' '), (s.dropWhile (· != ' ')).drop 1)

/-- A room in a text: a number below `2 ^ 64`. -/
def readRoom? (s : List Char) : Option Room :=
  Text.readUnsigned? 10 Text.limit64 s

/-- What a line without blanks around it asks for. -/
def Line.ofTrimmed (line : List Char) : Line :=
  let (word, rest) := firstWord line
  if word = "/join".toList then
    match readRoom? (Text.trim rest) with
    | some room => .join room
    | none => .nothing
  else if word = "/leave".toList then .leave
  else if word = "/reconnect".toList then .reconnect
  else if word = "/online".toList then .online
  else if word = "/logout".toList then .logout
  else .say (String.ofList line)

/-- What the text of a line asks for. -/
def Line.read (text : String) : Line :=
  match Text.trim text.toList with
  | [] => .nothing
  | c :: rest => .ofTrimmed (c :: rest)

/-! ### Lines of an input -/

/-- The byte that ends a line. -/
def lineFeed : UInt8 := 10

/-- The lines of an input without the bytes that end them. What stands behind the last one of these
is a line if it is not empty. -/
def splitLines : List UInt8 → List (List UInt8)
  | [] => []
  | b :: rest =>
    if b = lineFeed then [] :: splitLines rest
    else
      match splitLines rest with
      | [] => [[b]]
      | line :: lines => (b :: line) :: lines

/-- The texts of lines, up to the first line that is no text. -/
def textsOf : List (List UInt8) → List String
  | [] => []
  | line :: lines =>
    match String.fromUTF8? ⟨line.toArray⟩ with
    | some text => text :: textsOf lines
    | none => []

/-- The lines of an input, up to the first that is no text. -/
def linesOf (input : ByteArray) : List String :=
  textsOf (splitLines input.data.toList)

/-- There are as many lines as bytes that end them, and one more if the input does not end with one.

**Proof sketch.** Induction on the bytes. An end of line begins a line if something follows it; any
other byte goes to the line that the rest begins with, which exists unless the byte is the last
one. -/
theorem length_splitLines (bytes : List UInt8) :
    (splitLines bytes).length = bytes.count lineFeed +
      if bytes = [] ∨ bytes.getLast? = some lineFeed then 0 else 1 := by
  induction bytes with
  | nil => rfl
  | cons b rest ih =>
    by_cases hb : b = lineFeed
    · subst hb
      cases rest with
      | nil => rfl
      | cons c rest =>
        simp only [splitLines, if_true, List.length_cons, List.count_cons_self] at ih ⊢
        simp only [List.getLast?_cons_cons]
        simp only [reduceCtorEq, false_or] at ih ⊢
        omega
    · cases rest with
      | nil => simp [splitLines, hb]
      | cons c rest =>
        have hne : splitLines (c :: rest) ≠ [] := by
          unfold splitLines
          split
          · simp
          · split <;> simp
        simp only [List.getLast?_cons_cons, List.count_cons_of_ne hb, reduceCtorEq,
          false_or] at ih ⊢
        rw [← ih]
        cases h : splitLines (c :: rest) with
        | nil => exact absurd h hne
        | cons line lines => simp only [splitLines, hb, if_false] at h ⊢; simp [h]

end Messenger.Terminal
