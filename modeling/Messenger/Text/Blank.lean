set_option relaxedAutoImplicit false
set_option autoImplicit false

/-!
# Blank characters

The characters that count as white space when a text is trimmed: the Unicode property
`White_Space`. Texts are lists of characters here, so that trimming is a statement about
`List.dropWhile`.

## Main definitions

* `Messenger.Text.isBlank`: membership in `White_Space`.
* `Messenger.Text.trimLeft`, `Messenger.Text.trim`: the text without the blanks at its
  front, and without those at both ends.

## Main results

* `Messenger.Text.isBlank_of_isWhitespace`: the white space of the core library is blank.
* `Messenger.Text.trim_eq_nil_iff`: nothing is left of a text by trimming exactly if all
  of its characters are blank.
-/

namespace Messenger.Text

/-- The code points of `White_Space`, as closed ranges. -/
def blankRanges : List (Nat × Nat) :=
  [(0x09, 0x0D), (0x20, 0x20), (0x85, 0x85), (0xA0, 0xA0), (0x1680, 0x1680),
    (0x2000, 0x200A), (0x2028, 0x2029), (0x202F, 0x202F), (0x205F, 0x205F),
    (0x3000, 0x3000)]

/-- A character with the Unicode property `White_Space`. -/
def isBlank (c : Char) : Bool :=
  blankRanges.any fun r => r.1 ≤ c.toNat && c.toNat ≤ r.2

/-- The text from its first character that is not blank. -/
def trimLeft (s : List Char) : List Char :=
  s.dropWhile isBlank

/-- The text up to its last character that is not blank. -/
def trimRight (s : List Char) : List Char :=
  (s.reverse.dropWhile isBlank).reverse

/-- The text without the blanks at both of its ends. -/
def trim (s : List Char) : List Char :=
  trimRight (trimLeft s)

/-- The white space of the core library is blank. -/
theorem isBlank_of_isWhitespace {c : Char} (h : c.isWhitespace) : isBlank c := by
  simp only [Char.isWhitespace, Bool.or_eq_true, decide_eq_true_eq] at h
  rcases h with ((rfl | rfl) | rfl) | rfl <;> decide

/-- Trimming at the front leaves nothing exactly if every character is blank. -/
theorem trimLeft_eq_nil_iff {s : List Char} : trimLeft s = [] ↔ ∀ c ∈ s, isBlank c := by
  induction s with
  | nil => simp [trimLeft]
  | cons c r ih =>
    by_cases h : isBlank c
    · have hd : trimLeft (c :: r) = trimLeft r := by simp [trimLeft, h]
      rw [hd, ih]
      simp [h]
    · simp [trimLeft, h]

/-- What trimming at the front leaves does not begin with a blank. -/
theorem not_isBlank_of_trimLeft {s r : List Char} {c : Char} (h : trimLeft s = c :: r) :
    isBlank c = false := by
  induction s with
  | nil => simp [trimLeft] at h
  | cons d t ih =>
    by_cases hd : isBlank d
    · exact ih (by simpa [trimLeft, List.dropWhile, hd] using h)
    · have : d = c := by simpa [trimLeft, List.dropWhile, hd] using congrArg List.head? h
      simpa [← this] using hd

/-- Trimming leaves nothing exactly if every character is blank.

**Proof sketch.** If something is left behind the blanks at the front, it begins with a character
that is none. If trimming at the other end leaves nothing, that character is blank all the same. -/
theorem trim_eq_nil_iff {s : List Char} : trim s = [] ↔ ∀ c ∈ s, isBlank c := by
  rw [← trimLeft_eq_nil_iff]
  constructor
  · intro h
    cases hs : trimLeft s with
    | nil => rfl
    | cons c r =>
      have hall : ∀ d ∈ (c :: r).reverse, isBlank d := by
        have h' : (trimLeft (trimLeft s).reverse).reverse = [] := h
        rw [hs, List.reverse_eq_nil_iff] at h'
        exact trimLeft_eq_nil_iff.1 h'
      have hc := hall c (by simp)
      simp [not_isBlank_of_trimLeft hs] at hc
  · intro h
    simp [trim, trimRight, h]

end Messenger.Text
