import Mathlib.Algebra.Group.Nat.Defs
import Mathlib.Tactic.Lemma
import Messenger.Text.Blank
import Messenger.Text.Numeral

set_option relaxedAutoImplicit false
set_option autoImplicit false

/-!
# Decimal numerals

What is written in decimal is read back, with zeros in front or without, and wherever the digits
of a longer text end.

## Main results

* `Messenger.Text.readDigits_decimal`: the digits of a number denote it.
* `Messenger.Text.readDigits_padded`, `Messenger.Text.length_padded`: so do those of a field, which
  has the width that was asked for.
* `Messenger.Text.readUnsigned?_trim_decimal`: a number that fits is read back as a numeral.
-/

namespace Messenger.Text

/-! ### Lists of digits -/

/-- The continuation of a text does not go on with a digit. -/
def NoDigit (rest : List Char) : Prop :=
  ∀ c, rest.head? = some c → c.isDigit = false

/-- A text goes on with its first character. -/
lemma noDigit_cons {c : Char} (h : c.isDigit = false) (rest : List Char) : NoDigit (c :: rest) := by
  intro d hd
  cases hd
  exact h

/-- The digits at the front of a text are taken, up to where it does not go on with one. -/
lemma takeWhile_isDigit_append {ds rest : List Char} (hd : ∀ c ∈ ds, c.isDigit)
    (hr : NoDigit rest) : (ds ++ rest).takeWhile Char.isDigit = ds := by
  rw [List.takeWhile_append_of_pos hd]
  cases rest with
  | nil => simp
  | cons c rest => simp [hr c rfl]

/-- The digits at the front of a text are passed over. -/
lemma dropWhile_isDigit_append {ds rest : List Char} (hd : ∀ c ∈ ds, c.isDigit)
    (hr : NoDigit rest) : (ds ++ rest).dropWhile Char.isDigit = rest := by
  rw [List.dropWhile_append_of_pos hd]
  cases rest with
  | nil => rfl
  | cons c rest => simp [hr c rfl]

/-- Nothing is passed over where there are no digits. -/
lemma dropWhile_isDigit_of_noDigit {rest : List Char} (h : NoDigit rest) :
    rest.dropWhile Char.isDigit = rest :=
  @dropWhile_isDigit_append [] rest (by simp) h

/-- Digits are read one list after the other. -/
lemma readDigits_append (base n : Nat) (xs ys : List Char) :
    readDigits base n (xs ++ ys) = (readDigits base n xs).bind fun k => readDigits base k ys := by
  induction xs generalizing n with
  | nil => rfl
  | cons c xs ih =>
    simp only [List.cons_append, readDigits]
    cases digitValue? base c with
    | none => rfl
    | some d => exact ih _

/-- Zeros in front of digits change nothing. -/
lemma readDigits_replicate_zero (w : Nat) (ds : List Char) :
    readDigits 10 0 (List.replicate w '0' ++ ds) = readDigits 10 0 ds := by
  induction w with
  | zero => rfl
  | succ w ih => exact ih

/-- A digit has the value for which it was written. -/
lemma digitValue?_digitChar {d : Nat} (h : d < 10) : digitValue? 10 d.digitChar = some d := by
  have hall : ∀ d : Fin 10, digitValue? 10 d.val.digitChar = some d.val := by decide
  exact hall ⟨d, h⟩

/-! ### Numbers in decimal -/

/-- A number is written in digits. -/
lemma isDigit_of_mem_decimal {n : Nat} {c : Char} (h : c ∈ decimal n) : c.isDigit :=
  Nat.isDigit_of_mem_toDigits (by decide) (by decide) h

/-- A number has at least one digit. -/
lemma decimal_ne_nil (n : Nat) : decimal n ≠ [] :=
  Nat.toDigits_ne_nil

/-- The last digit of a number with several of them comes behind those of its tenth. -/
lemma decimal_of_ten_le {n : Nat} (h : 10 ≤ n) :
    decimal n = decimal (n / 10) ++ [(n % 10).digitChar] :=
  Nat.toDigits_of_base_le (by decide) h

/-- A number below ten is one digit. -/
lemma decimal_of_lt_ten {n : Nat} (h : n < 10) : decimal n = [n.digitChar] :=
  Nat.toDigits_of_lt_base h

/-- The digits of a number denote it.

**Proof sketch.** Strong induction: the last digit of `n` comes behind the digits of `n / 10`. -/
lemma readDigits_decimal (n : Nat) : readDigits 10 0 (decimal n) = some n := by
  induction n using Nat.strongRecOn with
  | _ n ih =>
    rcases Nat.lt_or_ge n 10 with h | h
    · simp [decimal_of_lt_ten h, readDigits, digitValue?_digitChar h]
    · rw [decimal_of_ten_le h, readDigits_append, ih (n / 10) (by omega)]
      simp only [Option.bind_some, readDigits, digitValue?_digitChar (Nat.mod_lt n (by decide))]
      rw [Nat.mul_comm, Nat.div_add_mod]

/-- Only zero begins with a zero. -/
lemma eq_zero_of_decimal_eq_cons {n : Nat} {ds : List Char} (h : decimal n = '0' :: ds) :
    n = 0 ∧ ds = [] := by
  induction n using Nat.strongRecOn generalizing ds with
  | _ n ih =>
    rcases Nat.lt_or_ge n 10 with hn | hn
    · rw [decimal_of_lt_ten hn, List.cons.injEq] at h
      have hzero : ∀ d : Fin 10, d.val.digitChar = '0' → d.val = 0 := by decide
      exact ⟨hzero ⟨n, hn⟩ h.1, h.2.symm⟩
    · rw [decimal_of_ten_le hn] at h
      cases ht : decimal (n / 10) with
      | nil => exact absurd ht (decimal_ne_nil _)
      | cons c rest =>
        rw [ht, List.cons_append, List.cons.injEq] at h
        have hz := (ih (n / 10) (by omega) (h.1 ▸ ht)).1
        omega

/-! ### Fields of a fixed width -/

/-- A field is made of digits. -/
lemma isDigit_of_mem_padded {w n : Nat} {c : Char} (h : c ∈ padded w n) : c.isDigit := by
  rcases List.mem_append.1 h with h | h
  · rw [List.eq_of_mem_replicate h]
    decide
  · exact isDigit_of_mem_decimal h

/-- A field denotes its number. -/
lemma readDigits_padded (w n : Nat) : readDigits 10 0 (padded w n) = some n := by
  rw [padded, readDigits_replicate_zero, readDigits_decimal]

/-- A field has its width if the number fits. -/
lemma length_padded {w n : Nat} (hw : 0 < w) (h : n < 10 ^ w) : (padded w n).length = w := by
  have hlen : (decimal n).length ≤ w := (Nat.length_toDigits_le_iff (by decide) hw).2 h
  simp only [padded, List.length_append, List.length_replicate]
  omega

/-- A field is at least as wide as was asked for. -/
lemma le_length_padded (w n : Nat) : w ≤ (padded w n).length := by
  simp only [padded, List.length_append, List.length_replicate]
  omega

/-! ### Numerals with blanks around them -/

/-- Digits are not blank. -/
lemma isBlank_of_isDigit {c : Char} (h : c.isDigit) : isBlank c = false := by
  simp only [Char.isDigit, Bool.and_eq_true, decide_eq_true_eq] at h
  have hlow : 48 ≤ c.toNat := h.1
  have hhigh : c.toNat ≤ 57 := h.2
  simp only [isBlank, blankRanges, List.any_cons, List.any_nil, Bool.or_false,
    Bool.or_eq_false_iff, Bool.and_eq_false_iff, decide_eq_false_iff_not]
  omega

/-- Nothing is trimmed at the front of a text that begins with something else than a blank. -/
lemma trimLeft_cons {c : Char} (h : isBlank c = false) (rest : List Char) :
    trimLeft (c :: rest) = c :: rest := by
  simp [trimLeft, h]

/-- Trimming leaves a text alone in which nothing is blank. -/
lemma trim_eq_self {s : List Char} (h : ∀ c ∈ s, isBlank c = false) : trim s = s := by
  have hleft : ∀ t : List Char, (∀ c ∈ t, isBlank c = false) → t.dropWhile isBlank = t := by
    intro t ht
    cases t with
    | nil => rfl
    | cons c t => simp [ht c (by simp)]
  rw [trim, trimRight, trimLeft, hleft s h, hleft s.reverse (by simpa using h),
    List.reverse_reverse]

/-- A number that fits is read back from its decimal form, trimmed or not.

**Proof sketch.** Digits are no blanks, and none of them is a sign, so that the reader finds all of
them. -/
lemma readUnsigned?_trim_decimal {n limit : Nat} (h : n < limit) :
    readUnsigned? 10 limit (trim (decimal n)) = some n := by
  rw [trim_eq_self fun c hc => isBlank_of_isDigit (isDigit_of_mem_decimal hc)]
  cases hd : decimal n with
  | nil => exact absurd hd (decimal_ne_nil n)
  | cons c rest =>
    have hc : c ≠ '+' := by
      rintro rfl
      have : ('+' : Char).isDigit := isDigit_of_mem_decimal (n := n) (by simp [hd])
      exact absurd this (by decide)
    have hread : readNat? 10 (c :: rest) = some n := by
      rw [← readDigits_decimal n, hd, readNat?]
      simp
    unfold readUnsigned?
    split
    · next rest' heq => exact absurd (List.cons.inj heq).1 hc
    · show (readNat? 10 (c :: rest)).filter _ = some n
      rw [hread]
      simp [h]

/-- A number that is read fits. -/
lemma lt_of_readUnsigned? {base limit n : Nat} {s : List Char}
    (h : readUnsigned? base limit s = some n) : n < limit := by
  have hfilter := (Option.filter_eq_some_iff.1 h).2
  simpa using hfilter

end Messenger.Text
