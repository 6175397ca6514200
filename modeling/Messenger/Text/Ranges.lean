import Messenger.Text.Numeral

set_option relaxedAutoImplicit false
set_option autoImplicit false

/-!
# Tables of code points

The tables of a character property are long, so they are written as lines of text: one word for
each range of code points, in ascending order, with the numbers in base sixteen.

## Main definitions

* `Messenger.Text.words`: the parts of a text between blanks.
* `Messenger.Text.hexNat`: a number in base sixteen.
* `Messenger.Text.readRanges`: ranges of code points; `300+6f` is the range that begins at U+0300
  and goes on for 6F more code points, and `ad` is U+00AD alone.
* `Messenger.Text.inRanges`: whether a character lies in one of the ranges.

## Main results

* `Messenger.Text.splitAtEvery_append`: the parts of two texts with a separator between them.
* `Messenger.Text.intercalate_splitAtEvery`: the parts of a text make the text again.
-/

namespace Messenger.Text

/-- The parts of a text between its separators, empty ones included. -/
def splitAtEvery (separator : Char) : List Char → List (List Char)
  | [] => [[]]
  | c :: rest =>
    if c = separator then [] :: splitAtEvery separator rest
    else
      match splitAtEvery separator rest with
      | [] => [[c]]
      | part :: parts => (c :: part) :: parts

/-- The parts of a text between spaces. -/
def words (s : List Char) : List (List Char) :=
  (splitAtEvery ' ' s).filter (· ≠ [])

/-- A number in base sixteen; what is none counts as zero. -/
def hexNat (s : List Char) : Nat :=
  (readNat? 16 s).getD 0

/-- One range: its first and its last code point. -/
def readRange (word : List Char) : Nat × Nat :=
  match splitAtEvery '+' word with
  | [first, more] => (hexNat first, hexNat first + hexNat more)
  | _ => (hexNat word, hexNat word)

/-- The ranges that the lines of a table list. -/
def readRanges (table : List String) : List (Nat × Nat) :=
  table.flatMap fun line => (words line.toList).map readRange

/-- Whether a code point lies in one of the ranges. -/
def inRanges (ranges : List (Nat × Nat)) (n : Nat) : Bool :=
  ranges.any fun r => r.1 ≤ n && n ≤ r.2

/-- A text has at least one part. -/
theorem splitAtEvery_ne_nil (separator : Char) (s : List Char) :
    splitAtEvery separator s ≠ [] := by
  cases s with
  | nil => simp [splitAtEvery]
  | cons c rest =>
    simp only [splitAtEvery]
    split
    · simp
    · split <;> simp

/-- A text without separators has one part. -/
theorem splitAtEvery_of_notMem {separator : Char} {s : List Char} (h : separator ∉ s) :
    splitAtEvery separator s = [s] := by
  induction s with
  | nil => rfl
  | cons c rest ih =>
    obtain ⟨hc, hrest⟩ := not_or.1 (mt List.mem_cons.2 h)
    rw [splitAtEvery, if_neg (Ne.symm hc), ih hrest]

/-- The parts of two texts with a separator between them are those of the one and of the other. -/
theorem splitAtEvery_append (separator : Char) (s t : List Char) :
    splitAtEvery separator (s ++ separator :: t) =
      splitAtEvery separator s ++ splitAtEvery separator t := by
  induction s with
  | nil => simp [splitAtEvery]
  | cons c rest ih =>
    by_cases h : c = separator
    · simp [splitAtEvery, h, ih]
    · cases hp : splitAtEvery separator rest with
      | nil => exact absurd hp (splitAtEvery_ne_nil separator rest)
      | cons part parts => simp [splitAtEvery, h, ih, hp]

/-- The parts of a text, put together again with the separators, are the text.

**Proof sketch.** Induction on the text. A separator puts an empty part in front; any other
character goes to the first part of the rest, and whether a second one follows decides how the parts
are joined. -/
theorem intercalate_splitAtEvery (separator : Char) (s : List Char) :
    [separator].intercalate (splitAtEvery separator s) = s := by
  induction s with
  | nil => rfl
  | cons c rest ih =>
    cases hp : splitAtEvery separator rest with
    | nil => exact absurd hp (splitAtEvery_ne_nil separator rest)
    | cons p ps =>
      rw [hp] at ih
      by_cases h : c = separator
      · simp [splitAtEvery, h, hp, List.intercalate] at ih ⊢
        exact ih
      · cases ps with
        | nil => simpa [splitAtEvery, h, hp, List.intercalate] using ih
        | cons q qs =>
          simp [splitAtEvery, h, hp, List.intercalate, List.intersperse] at ih ⊢
          exact ih

end Messenger.Text
