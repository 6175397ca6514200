import Messenger.Proofs.Text.Decimal
import Messenger.Timestamp.Reader
import Messenger.Timestamp.Writer

set_option relaxedAutoImplicit false
set_option autoImplicit false

/-!
# Written timestamps are read back

Every moment is read back from its written form: leap seconds, fractions of any length and years
far from the present included.

## Main results

* `Messenger.Timestamp.readYear_writeYear`, `Messenger.Timestamp.readFraction_writeFraction`: the
  two fields whose width varies.
* `Messenger.Timestamp.read_render`: a written timestamp is read back.
-/

namespace Messenger.Timestamp

open Text (NoDigit padded)

/-! ### Fields -/

/-- Digits are taken up to where the text does not go on with one, if they are not too many.

**Proof sketch.** The reader stops where the digits do, as the text does not go on with one, and is
not stopped before by the most that it may take. -/
lemma readDigits_of_append {most : Option Nat} {ds rest : List Char} {v : Nat}
    (hd : ∀ c ∈ ds, c.isDigit) (hne : ds ≠ []) (hmost : ∀ n, most = some n → ds.length ≤ n)
    (hv : Text.readDigits 10 0 ds = some v) (hr : NoDigit rest) :
    readDigits most (ds ++ rest) = .ok (v, rest) := by
  have htake := Text.takeWhile_isDigit_append hd hr
  have hdrop : (ds ++ rest).drop ds.length = rest := List.drop_left
  cases ds with
  | nil => exact absurd rfl hne
  | cons c ds =>
    cases most with
    | none =>
      simp only [List.cons_append] at htake hdrop ⊢
      simp only [readDigits, htake, hv, hdrop, Option.getD_some]
    | some n =>
      have hrun := List.take_of_length_le (hmost n rfl)
      simp only [List.cons_append] at htake hdrop ⊢
      simp only [readDigits, htake, hrun, hv, hdrop, Option.getD_some]

/-- A field begins with a digit. -/
lemma padded_eq_cons {w : Nat} (hw : 0 < w) (n : Nat) :
    ∃ c ds, padded w n = c :: ds ∧ c.isDigit := by
  cases hp : padded w n with
  | nil =>
    have hlen := Text.le_length_padded w n
    rw [hp, List.length_nil] at hlen
    omega
  | cons c ds => exact ⟨c, ds, rfl, Text.isDigit_of_mem_padded (w := w) (n := n) (by simp [hp])⟩

/-- There are no blanks in front of a field. -/
lemma trimLeft_padded {w : Nat} (hw : 0 < w) (n : Nat) (rest : List Char) :
    Text.trimLeft (padded w n ++ rest) = padded w n ++ rest := by
  obtain ⟨c, ds, hp, hc⟩ := padded_eq_cons hw n
  rw [hp]
  exact Text.trimLeft_cons (Text.isBlank_of_isDigit hc) _

/-- A field of a width is read back, if so many digits may be taken. -/
lemma readDigits_padded {most : Option Nat} {w n : Nat} (hw : 0 < w)
    (hmost : ∀ k, most = some k → w ≤ k ∧ n < 10 ^ w) {rest : List Char} (hr : NoDigit rest) :
    readDigits most (padded w n ++ rest) = .ok (n, rest) := by
  obtain ⟨c, ds, hp, -⟩ := padded_eq_cons hw n
  apply readDigits_of_append (fun c hc => Text.isDigit_of_mem_padded hc) (by simp [hp]) ?_
    (Text.readDigits_padded w n) hr
  intro k hk
  obtain ⟨hle, hlt⟩ := hmost k hk
  rw [Text.length_padded hw hlt]
  exact hle

/-- A field of two digits is read back. -/
lemma readField_padded {least greatest n : Nat} (hleast : least ≤ n) (hgreatest : n ≤ greatest)
    (hn : n < 100) {rest : List Char} (hr : NoDigit rest) :
    readField least greatest (padded 2 n ++ rest) = .ok (n, rest) := by
  have hread : readDigits (some 2) (padded 2 n ++ rest) = .ok (n, rest) := by
    apply readDigits_padded (by decide) ?_ hr
    rintro k ⟨⟩
    exact ⟨Nat.le_refl 2, hn⟩
  rw [readField, trimLeft_padded (by decide), hread]
  exact if_pos ⟨hleast, hgreatest⟩

/-- A mark is passed over. -/
lemma skipMark_cons {c : Char} (h : Text.isBlank c = false) (rest : List Char) :
    skipMark c (c :: rest) = .ok rest := by
  simp [skipMark, Text.trimLeft_cons h]

/-- A year without a sign is read in four digits at most. -/
lemma readYear_padded (n : Nat) (rest : List Char) :
    readYear (padded 4 n ++ rest) =
      readYear.sized 1 (readDigits (some 4) (padded 4 n ++ rest)) := by
  obtain ⟨c, ds, hp, hc⟩ := padded_eq_cons (w := 4) (by decide) n
  rw [readYear, trimLeft_padded (by decide), hp]
  split
  · next heq =>
    obtain rfl : c = '-' := (List.cons.inj heq).1
    exact absurd hc (by decide)
  · next heq =>
    obtain rfl : c = '+' := (List.cons.inj heq).1
    exact absurd hc (by decide)
  · rfl

/-- **Years.** A written year is read back.

**Proof sketch.** A year of four digits begins with a digit and is read as such. Any other one has a
sign, behind which all digits are taken. -/
lemma readYear_writeYear {y : Int} (hlow : Date.firstYear ≤ y) (hhigh : y ≤ Date.lastYear)
    {rest : List Char} (hr : NoDigit rest) : readYear (writeYear y ++ rest) = .ok (y, rest) := by
  unfold Date.firstYear at hlow
  unfold Date.lastYear at hhigh
  have hsized : ∀ (sign : Int) (n : Nat), sign * n = y →
      readYear.sized sign (.ok (n, rest)) = .ok (y, rest) := by
    intro sign n hn
    simp only [readYear.sized, hn]
    exact if_pos (by omega)
  have hall : ∀ n, readDigits none (padded 4 n ++ rest) = .ok (n, rest) := fun n =>
    readDigits_padded (by decide) (by simp) hr
  unfold writeYear
  split
  · next hfour =>
    have hread : readDigits (some 4) (padded 4 y.toNat ++ rest) = .ok (y.toNat, rest) := by
      apply readDigits_padded (by decide) ?_ hr
      rintro k ⟨⟩
      exact ⟨Nat.le_refl 4, by omega⟩
    rw [readYear_padded, hread, hsized 1 y.toNat (by omega)]
  · split
    · next hneg =>
      show readYear.sized (-1) (readDigits none (padded 4 (-y).toNat ++ rest)) = _
      rw [hall, hsized (-1) (-y).toNat (by omega)]
    · next hpos =>
      show readYear.sized 1 (readDigits none (padded 4 y.toNat ++ rest)) = _
      rw [hall, hsized 1 y.toNat (by omega)]

/-- A fraction of some digits is read back in billionths. -/
lemma readFraction_padded {w n : Nat} (hw : 0 < w) (hmost : w ≤ 9) (hn : n < 10 ^ w)
    {rest : List Char} (hr : NoDigit rest) :
    readFraction ('.' :: (padded w n ++ rest)) = .ok (n * 10 ^ (9 - w), rest) := by
  have hread : readDigits (some 9) (padded w n ++ rest) = .ok (n, rest) := by
    apply readDigits_padded hw ?_ hr
    rintro k ⟨⟩
    exact ⟨hmost, hn⟩
  have hdrop := Text.dropWhile_isDigit_of_noDigit hr
  have hlen : (padded w n ++ rest).length - rest.length = w := by
    rw [List.length_append, Text.length_padded hw hn, Nat.add_sub_cancel]
  simp only [readFraction, hread, hdrop, hlen]
  rfl

/-- **Fractions.** A written fraction is read back.

**Proof sketch.** The groups of three zeros that are left out are those that the reader puts back
when it counts the digits it has taken. -/
lemma readFraction_writeFraction {nano : Nat} (h : nano < 1000000000) {rest : List Char}
    (hr : NoDigit rest) (hpoint : rest.head? ≠ some '.') :
    readFraction (writeFraction nano ++ rest) = .ok (nano, rest) := by
  unfold writeFraction
  split
  · next hzero =>
    subst hzero
    rw [List.nil_append]
    unfold readFraction
    split
    · exact absurd rfl hpoint
    · rfl
  split
  · rw [List.cons_append, readFraction_padded (by decide) (by decide) (by omega) hr]
    congr 2
    omega
  split
  · rw [List.cons_append, readFraction_padded (by decide) (by decide) (by omega) hr]
    congr 2
    omega
  · rw [List.cons_append, readFraction_padded (by decide) (by decide) (by omega) hr]
    congr 2
    omega

/-! ### The whole -/

/-- A written date is read back.

**Proof sketch.** Field by field, with a mark behind each. No month has more than 31 days, so that a
day has two digits. -/
lemma readDate_write {d : Date} (h : d.Valid) {rest : List Char} (hr : NoDigit rest) :
    readDate (writeYear d.year ++ '-' :: (padded 2 d.month ++ '-' :: (padded 2 d.day ++ rest))) =
      .ok (d, rest) := by
  obtain ⟨hfirst, hlast, hm, hm', hd, hd'⟩ := h
  have hday : d.day ≤ 31 := by
    have : Date.daysInMonth d.year d.month ≤ 31 := by
      unfold Date.daysInMonth
      split
      · split <;> decide
      · split <;> decide
    omega
  have hmark : ∀ s, NoDigit ('-' :: s) := Text.noDigit_cons (by decide)
  have hskip : ∀ s, skipMark '-' ('-' :: s) = .ok s := skipMark_cons (by decide)
  unfold readDate
  rw [readYear_writeYear hfirst hlast (hmark _)]
  simp only [bind, Except.bind, hskip]
  rw [readField_padded hm hm' (by omega) (hmark _)]
  simp only [hskip]
  rw [readField_padded hd hday (by omega) hr]
  rfl

/-- A moment is the one that its own fields denote without an offset. -/
lemma resolve_zero {t : Timestamp} (h : t.Valid) : resolve t 0 = .ok t := by
  have hat : t.atOffset? 0 = some t := by
    obtain ⟨⟨hfirst, hlast, -⟩, hh, hm, -, -⟩ := h
    have hdate : t.date.ofMinutes (((t.hour * 60 + t.minute : Nat) : Int) - 0) = t.date := by
      unfold Date.ofMinutes
      rw [if_neg (by omega), if_pos (by omega)]
    have hday : ((((t.hour * 60 + t.minute : Nat) : Int) - 0) % 1440).toNat =
        t.hour * 60 + t.minute := by omega
    simp only [atOffset?, hdate, hday]
    rw [if_pos ⟨hfirst, hlast⟩]
    have hhour : (t.hour * 60 + t.minute) / 60 = t.hour := by omega
    have hminute : (t.hour * 60 + t.minute) % 60 = t.minute := by omega
    rw [hhour, hminute]
  rw [resolve, if_neg (not_not_intro h), if_neg (by omega), hat]

/-- **Timestamps.** A written timestamp is read back.

**Proof sketch.** Field by field: each is followed by a mark that is no digit, and the fields are
within the bounds that the reader checks because the moment is valid. -/
theorem read_render {t : Timestamp} (h : t.Valid) : read t.render.toList = .ok t := by
  obtain ⟨hd, hh, hm, hs, hn⟩ := id h
  have hT : ∀ s, NoDigit ('T' :: s) := Text.noDigit_cons (by decide)
  have hcolon : ∀ s, NoDigit (':' :: s) := Text.noDigit_cons (by decide)
  have hskip : ∀ s, skipMark ':' (':' :: s) = .ok s := skipMark_cons (by decide)
  have hZ : NoDigit ['Z'] := Text.noDigit_cons (by decide) []
  have hfraction : NoDigit (writeFraction t.nano ++ ['Z']) := by
    unfold writeFraction
    split
    · exact hZ
    split
    · exact Text.noDigit_cons (by decide) _
    split
    · exact Text.noDigit_cons (by decide) _
    · exact Text.noDigit_cons (by decide) _
  have hoffset : readOffset (Text.trimLeft ['Z']) = .ok (0, []) := rfl
  have hnil : Text.trimLeft [] = [] := rfl
  rw [render, String.toList_ofList]
  unfold read write
  simp only [List.append_assoc, List.cons_append]
  rw [readDate_write hd (hT _)]
  simp only [bind, Except.bind, skipSeparator]
  rw [readField_padded (Nat.zero_le _) (by omega) (by omega) (hcolon _)]
  simp only [hskip]
  rw [readField_padded (Nat.zero_le _) (by omega) (by omega) (hcolon _)]
  simp only [hskip]
  rw [readField_padded (Nat.zero_le _) (by omega) (by omega) hfraction]
  simp only []
  rw [readFraction_writeFraction hn hZ (by decide)]
  simp only [hoffset, hnil, if_true]
  exact resolve_zero h

end Messenger.Timestamp
