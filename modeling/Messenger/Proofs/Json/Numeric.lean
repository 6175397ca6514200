import Messenger.Proofs.Json.Entries

set_option relaxedAutoImplicit false
set_option autoImplicit false

/-!
# The texts of numbers

Whatever follows the text of a number, the same is made of it: the number is read, and what follows
is left alone, or it is refused. This holds of every number that can be written, a double or not.

## Main definitions

* `Messenger.Json.Numeric`: what a number is written as, behind its sign.

## Main results

* `Messenger.Json.settles_readNumber`: what is made of a number does not depend on what follows it.
* `Messenger.Json.readNumber_decimal`: a number that fits is read back.
* `Messenger.Json.numberText_cases`: how a double is written.
-/

namespace Messenger.Json

/-! ### How numbers are written -/

/-- Digits, at least one of them. -/
structure Digits (ds : List Char) : Prop where
  ne_nil : ds ≠ []
  isDigit : ∀ c ∈ ds, c.isDigit

/-- A point with digits behind it, or nothing. -/
def Fraction (s : List Char) : Prop :=
  s = [] ∨ ∃ ds, Digits ds ∧ s = '.' :: ds

/-- A sign in front of a power, or none. -/
def Sign (s : List Char) : Prop :=
  s = [] ∨ s = ['+'] ∨ s = ['-']

/-- A power of ten, with a sign or without, or nothing. -/
def Exponent (s : List Char) : Prop :=
  s = [] ∨ ∃ letter sign ds, (letter = 'e' ∨ letter = 'E') ∧ Sign sign ∧ Digits ds ∧
    s = letter :: (sign ++ ds)

/-- What a number is written as, behind its sign: digits, with a fraction or an exponent or both of
them or neither. -/
def Numeric (w : List Char) : Prop :=
  ∃ whole fraction exponent, Digits whole ∧ Fraction fraction ∧ Exponent exponent ∧
    w = whole ++ (fraction ++ exponent)

/-- A zero is a digit. -/
lemma digits_zero : Digits ['0'] := by
  refine ⟨by simp, ?_⟩
  intro c hc
  rw [List.mem_singleton.1 hc]
  decide

/-- A number is written in digits. -/
lemma digits_decimal (n : Nat) : Digits (Text.decimal n) :=
  ⟨Text.decimal_ne_nil n, fun _ hc => Text.isDigit_of_mem_decimal hc⟩

/-- No digit begins an exponent, or what follows where there is none. -/
lemma Exponent.noDigit {exponent rest : List Char} (h : Exponent exponent) (hrest : Ends rest) :
    Text.NoDigit (exponent ++ rest) := by
  rcases h with rfl | ⟨letter, sign, ds, rfl | rfl, -, -, rfl⟩
  · exact hrest.noDigit
  · exact Text.noDigit_cons (by decide) _
  · exact Text.noDigit_cons (by decide) _

/-- Nor does a point. -/
lemma Exponent.append_ne_point {exponent rest : List Char} (h : Exponent exponent)
    (hrest : Ends rest) (s : List Char) : exponent ++ rest ≠ '.' :: s := by
  rcases h with rfl | ⟨letter, sign, ds, rfl | rfl, -, -, rfl⟩
  · rintro rfl
    exact (hrest '.' rfl).2.1 rfl
  · intro hs
    exact absurd (List.cons.inj hs).1 (by decide)
  · intro hs
    exact absurd (List.cons.inj hs).1 (by decide)

/-- No digit begins a fraction, or what follows where there is none. -/
lemma Fraction.noDigit {fraction rest : List Char} (h : Fraction fraction)
    (hrest : Text.NoDigit rest) : Text.NoDigit (fraction ++ rest) := by
  rcases h with rfl | ⟨ds, -, rfl⟩
  · exact hrest
  · exact Text.noDigit_cons (by decide) _

/-! ### How numbers are read -/

/-- What is read does not matter to whether it is read. -/
lemma toOption_map {ε α β : Type} (f : α → β) (r : Except ε α) :
    (r.map f).toOption = r.toOption.map f := by
  cases r <;> rfl

/-- If one reader does with a text what another one does with another text, what is made of the one
is settled as soon as what is made of the other is. -/
lemma Settles.transfer {α β : Type} {item : Reader α} {item' : Reader β} {w w' : List Char}
    (h : Settles item w) (f : α → β)
    (heq : ∀ rest, Ends rest → item' (w' ++ rest) = (item (w ++ rest)).map fun r => (f r.1, r.2)) :
    outcome? item' w' = (outcome? item w).map f ∧ Settles item' w' := by
  apply settles_of_forall
  intro rest hrest
  rw [heq rest hrest, toOption_map, h rest hrest]
  cases outcome? item w <;> rfl

/-- If two readers do the same with two texts, what is made of the one is settled as soon as what is
made of the other is. -/
lemma Settles.congr {α : Type} {item item' : Reader α} {w w' : List Char} (h : Settles item w)
    (heq : ∀ rest, Ends rest → item' (w' ++ rest) = item (w ++ rest)) :
    outcome? item' w' = outcome? item w ∧ Settles item' w' := by
  apply settles_of_forall
  intro rest hrest
  rw [heq rest hrest]
  exact h rest hrest

/-- What is no digit has no value as one. -/
lemma digitValue?_of_not_isDigit {c : Char} (h : c.isDigit = false) :
    Text.digitValue? 10 c = none := by
  have hnot : ¬ ('0' ≤ c ∧ c ≤ '9') := by
    rintro ⟨hlow, hhigh⟩
    have : c.isDigit := by
      simp only [Char.isDigit, Bool.and_eq_true, decide_eq_true_eq]
      exact ⟨hlow, hhigh⟩
    simp [this] at h
  simp only [Text.digitValue?, Text.digitValue36?, if_neg hnot]
  split
  · simp [Option.filter]
  · split <;> simp [Option.filter]

/-- The same is gathered from digits whatever follows them. -/
lemma gather_append_of_noDigit {ds rest : List Char} (hds : ∀ c ∈ ds, c.isDigit)
    (hrest : Text.NoDigit rest) (n count : Nat) :
    gather n count (ds ++ rest) =
      ⟨(gather n count ds).significand, (gather n count ds).count,
        (gather n count ds).rest ++ rest⟩ := by
  induction ds generalizing n count with
  | nil =>
    cases rest with
    | nil => rfl
    | cons c rest =>
      have hc := digitValue?_of_not_isDigit (hrest c rfl)
      simp [gather, hc]
  | cons c ds ih =>
    simp only [List.cons_append, gather, Text.digitValue?_ten (hds c (by simp))]
    split
    · exact ih (fun x hx => hds x (by simp [hx])) _ _
    · rfl

/-- What is not gathered from digits are those at the end. -/
lemma exists_gather (ds : List Char) (n count : Nat) :
    ∃ taken, ds = taken ++ (gather n count ds).rest ∧
      (gather n count ds).count = count + taken.length := by
  induction ds generalizing n count with
  | nil => exact ⟨[], rfl, rfl⟩
  | cons c ds ih =>
    simp only [gather]
    split
    · exact ⟨[], rfl, rfl⟩
    · next d _ =>
      split
      · obtain ⟨taken, hds, hcount⟩ := ih (n * 10 + d) (count + 1)
        exact ⟨c :: taken, congrArg (c :: ·) hds, by rw [hcount, List.length_cons]; omega⟩
      · exact ⟨[], rfl, rfl⟩

/-- What is not gathered from digits are digits. -/
lemma isDigit_of_mem_gather {ds : List Char} (hds : ∀ c ∈ ds, c.isDigit) {n count : Nat} {c : Char}
    (hc : c ∈ (gather n count ds).rest) : c.isDigit := by
  obtain ⟨taken, htaken, -⟩ := exists_gather ds n count
  apply hds
  rw [htaken]
  exact List.mem_append_right taken hc

/-- The digits of an exponent are read from the first one on.

**Proof sketch.** The digits are taken as long as there are any, and what follows is none. Without a
sign the first digit is itself no sign, so the branches for signs are passed by. -/
lemma readExponent_digits {c : Char} {ds rest : List Char} (hall : ∀ x ∈ c :: ds, x.isDigit)
    (hrest : Text.NoDigit rest) (significand : Nat) (start : Int) (negative : Bool) :
    (readExponent significand start ((if negative then '-' else '+') :: (c :: ds ++ rest)) =
      (scale significand (if negative then start - (Text.readDigits 10 0 (c :: ds)).getD 0
        else start + (Text.readDigits 10 0 (c :: ds)).getD 0)).map (·, rest)) ∧
    readExponent significand start (c :: ds ++ rest) =
      (scale significand (start + (Text.readDigits 10 0 (c :: ds)).getD 0)).map (·, rest) := by
  have hc : c.isDigit := hall c (by simp)
  have htake := Text.takeWhile_isDigit_append hall hrest
  have hdrop := Text.dropWhile_isDigit_append hall hrest
  rw [List.cons_append] at htake hdrop ⊢
  constructor
  · cases negative <;>
      simp only [readExponent, hc, if_true, htake, hdrop, Bool.false_eq_true, if_false] <;>
      split <;> next hscale => rw [hscale]; rfl
  · unfold readExponent
    split
    next negative s hs =>
      split at hs
      · next heq =>
        rw [(List.cons.inj heq).1] at hc
        exact absurd hc (by decide)
      · next heq =>
        rw [(List.cons.inj heq).1] at hc
        exact absurd hc (by decide)
      · obtain ⟨rfl, rfl⟩ := Prod.mk.inj hs
        simp only [hc, if_true, htake, hdrop, Bool.false_eq_true, if_false]
        split <;> next hscale => rw [hscale]; rfl

/-- The power of ten that the digits of an exponent tell is the same whatever follows them. -/
lemma readExponent_append {sign : List Char} (hsign : Sign sign) {ds : List Char}
    (hds : Digits ds) (significand : Nat) (start : Int) :
    ∃ power, ∀ rest, Text.NoDigit rest →
      readExponent significand start (sign ++ ds ++ rest) =
        (scale significand power).map (·, rest) := by
  obtain ⟨hne, hall⟩ := hds
  obtain ⟨c, ds, rfl⟩ := List.exists_cons_of_ne_nil hne
  rcases hsign with rfl | rfl | rfl
  · exact ⟨_, fun rest hrest => (readExponent_digits hall hrest significand start false).2⟩
  · exact ⟨_, fun rest hrest => (readExponent_digits hall hrest significand start false).1⟩
  · exact ⟨_, fun rest hrest => (readExponent_digits hall hrest significand start true).1⟩

/-- What is made of a significand and an exponent does not depend on what follows.

**Proof sketch.** Without an exponent what follows has no letter of one. With one, its digits are
read up to what follows, which is no digit (`readExponent_append`). -/
lemma settles_readScaled {exponent : List Char} (h : Exponent exponent) (significand : Nat)
    (start : Int) : Settles (readScaled significand start) exponent := by
  rcases h with rfl | ⟨letter, sign, ds, hletter, hsign, hds, rfl⟩
  · refine (settles_of_forall (r := (scale significand start).toOption) fun rest hrest => ?_).2
    have hscaled : readScaled significand start rest = (scale significand start).map (·, rest) := by
      unfold readScaled
      split
      · exact absurd rfl (hrest 'e' rfl).2.2.1
      · exact absurd rfl (hrest 'E' rfl).2.2.2
      · split <;> next hscale => rw [hscale]; rfl
    rw [List.nil_append, hscaled, toOption_map]
  · obtain ⟨power, hread⟩ := readExponent_append hsign hds significand start
    refine (settles_of_forall (r := (scale significand power).toOption) fun rest hrest => ?_).2
    rcases hletter with rfl | rfl <;>
      rw [List.cons_append, readScaled, hread rest hrest.noDigit, toOption_map]

/-- The digits behind a point are gathered, and those that do not fit are passed over.

**Proof sketch.** What is not gathered are the digits at the end (`exists_gather`). If some are
gathered the others are passed over; if none is, the first is passed over by itself, and then the
others. -/
lemma readFraction_append {ds rest : List Char} (hds : Digits ds) (hrest : Text.NoDigit rest)
    (significand : Nat) (exponent : Int) :
    readFraction significand exponent (ds ++ rest) =
      readScaled (gather significand 0 ds).significand
        (exponent - (gather significand 0 ds).count) rest := by
  obtain ⟨hne, hall⟩ := hds
  rw [readFraction, gather_append_of_noDigit hall hrest]
  dsimp only
  obtain ⟨taken, htaken, hcount⟩ := exists_gather ds significand 0
  have hleft : ∀ c ∈ (gather significand 0 ds).rest, c.isDigit := fun c hc =>
    isDigit_of_mem_gather hall hc
  generalize gather significand 0 ds = g at htaken hcount hleft ⊢
  cases taken with
  | nil =>
    -- Nothing fits, so the first digit is passed over by itself.
    obtain ⟨c, ds', hds'⟩ := List.exists_cons_of_ne_nil hne
    rw [List.nil_append, hds'] at htaken
    rw [hcount, ← htaken, List.cons_append, List.length_nil, Nat.add_zero]
    rw [← htaken] at hleft
    have hdigits : ∀ x ∈ ds', x.isDigit := fun x hx => hleft x (by simp [hx])
    have hdrop := Text.dropWhile_isDigit_append hdigits hrest
    simp only [hleft c (by simp), if_true, hdrop]
    show _ = readScaled g.significand (exponent - 0) rest
    rw [Int.sub_zero]
  | cons c taken =>
    have hsome : g.count = taken.length + 1 := hcount.trans (Nat.zero_add _)
    have hdrop := Text.dropWhile_isDigit_append hleft hrest
    simp only [hsome, hdrop]

/-- A number ends where neither a fraction nor an exponent follows. -/
lemma readTail_of_ends {s : List Char} (h : Ends s) (negative : Bool) (n : Nat) :
    readTail negative n s = .ok (integer negative n, s) := by
  unfold readTail
  split
  · exact absurd rfl (h '.' rfl).2.1
  · exact absurd rfl (h 'e' rfl).2.2.1
  · exact absurd rfl (h 'E' rfl).2.2.2
  · rfl

/-- What is made of a fraction behind its point does not depend on what follows. -/
lemma settles_readFraction {ds exponent : List Char} (hds : Digits ds) (h : Exponent exponent)
    (significand : Nat) (start : Int) :
    Settles (readFraction significand start) (ds ++ exponent) := by
  refine ((settles_readScaled h (gather significand 0 ds).significand
    (start - (gather significand 0 ds).count)).congr fun rest hrest => ?_).2
  rw [List.append_assoc, readFraction_append hds (h.noDigit hrest)]

/-- What is made of what follows the first digits does not depend on what follows that. -/
lemma settles_readTail {fraction exponent : List Char} (hfraction : Fraction fraction)
    (hexponent : Exponent exponent) (negative : Bool) (significand : Nat) :
    Settles (readTail negative significand) (fraction ++ exponent) := by
  rcases hfraction with rfl | ⟨ds, hds, rfl⟩
  · rw [List.nil_append]
    rcases hexponent with rfl | ⟨letter, sign, ds, hletter, hsign, hds, rfl⟩
    · refine (settles_of_forall (r := some (integer negative significand)) ?_).2
      intro rest hrest
      rw [List.nil_append, readTail_of_ends hrest]
      rfl
    · have hscaled := settles_readScaled (.inr ⟨letter, sign, ds, hletter, hsign, hds, rfl⟩)
        significand 0
      rcases hletter with rfl | rfl <;>
        exact (hscaled.transfer (fun x => .float (if negative then -x else x)) fun _ _ => rfl).2
  · have hread := settles_readFraction hds hexponent significand 0
    exact (hread.transfer (fun x => .float (if negative then -x else x)) fun _ _ => rfl).2

/-- A zero in front is a digit of its own. -/
lemma readNumber_zero {rest : List Char} (h : Text.NoDigit rest) (negative : Bool) :
    readNumber negative ('0' :: rest) = readTail negative 0 rest := by
  cases rest with
  | nil => rfl
  | cons c rest => simp only [readNumber, h c rfl, Bool.false_eq_true, if_false]

/-- What is made of what follows digits in front of which the last ones were dropped. -/
def readLong (negative : Bool) (significand dropped : Nat) : Reader Value
  | '.' :: rest => (readFraction significand dropped rest).map (signed negative)
  | rest => (readScaled significand dropped rest).map (signed negative)

/-- Digits in front are gathered, unless the first of them is a zero. -/
lemma readNumber_append {c : Char} (hc : c ≠ '0') {ds rest : List Char}
    (hall : ∀ x ∈ c :: ds, x.isDigit) (hrest : Text.NoDigit rest) (negative : Bool) :
    readNumber negative (c :: ds ++ rest) =
      if (gather 0 0 (c :: ds)).rest.isEmpty then
        readTail negative (gather 0 0 (c :: ds)).significand rest
      else
        readLong negative (gather 0 0 (c :: ds)).significand (gather 0 0 (c :: ds)).rest.length
          rest := by
  have hgather := gather_append_of_noDigit hall hrest 0 0
  have hleft : ∀ x ∈ (gather 0 0 (c :: ds)).rest, x.isDigit := fun x hx =>
    isDigit_of_mem_gather hall hx
  have htake := Text.takeWhile_isDigit_append hleft hrest
  have hdrop := Text.dropWhile_isDigit_append hleft hrest
  rw [List.cons_append] at hgather ⊢
  rw [readNumber]
  · simp only [hall c (by simp), if_true, hgather, htake, hdrop]
    rfl
  · exact hc

/-- What is made of what follows too many digits does not depend on what follows that. -/
lemma settles_readLong {fraction exponent : List Char} (hfraction : Fraction fraction)
    (hexponent : Exponent exponent) (negative : Bool) (significand dropped : Nat) :
    Settles (readLong negative significand dropped) (fraction ++ exponent) := by
  have hscaled := settles_readScaled hexponent significand dropped
  rcases hfraction with rfl | ⟨ds, hds, rfl⟩
  · refine (hscaled.transfer (fun x => .float (if negative then -x else x)) fun rest hrest => ?_).2
    rw [List.nil_append, readLong]
    · rfl
    · intro s hs
      exact hexponent.append_ne_point hrest s hs
  · have hread := settles_readFraction hds hexponent significand dropped
    exact (hread.transfer (fun x => .float (if negative then -x else x)) fun _ _ => rfl).2

/-- **A number and what follows it are apart.** What is made of a number does not depend on what
follows it.

**Proof sketch.** The digits in front are gathered, those of the fraction behind them, and then the
exponent is read. Of a number with too many digits in front the last ones are dropped. -/
lemma settles_readNumber {w : List Char} (h : Numeric w) (negative : Bool) :
    Settles (readNumber negative) w := by
  obtain ⟨whole, fraction, exponent, ⟨hne, hall⟩, hfraction, hexponent, rfl⟩ := h
  obtain ⟨c, ds, rfl⟩ := List.exists_cons_of_ne_nil hne
  have hnodigit : ∀ {rest : List Char}, Ends rest →
      Text.NoDigit (fraction ++ exponent ++ rest) := by
    intro rest hrest
    rw [List.append_assoc]
    exact hfraction.noDigit (hexponent.noDigit hrest)
  by_cases hzero : c = '0'
  · subst hzero
    cases ds with
    | nil =>
      refine ((settles_readTail hfraction hexponent negative 0).congr fun rest hrest => ?_).2
      exact readNumber_zero (hnodigit hrest) negative
    | cons d ds =>
      refine (settles_of_forall (r := none) fun rest hrest => ?_).2
      simp only [List.cons_append, readNumber, hall d (by simp), if_true]
      rfl
  · obtain ⟨g, hg⟩ : ∃ g, gather 0 0 (c :: ds) = g := ⟨_, rfl⟩
    have hread : ∀ rest, Ends rest →
        readNumber negative (c :: ds ++ (fraction ++ exponent) ++ rest) =
          if g.rest.isEmpty then readTail negative g.significand (fraction ++ exponent ++ rest)
          else readLong negative g.significand g.rest.length (fraction ++ exponent ++ rest) := by
      intro rest hrest
      rw [List.append_assoc, readNumber_append hzero hall (hnodigit hrest), hg]
    -- Digits that do not fit into the significand are only counted.
    by_cases hfits : g.rest.isEmpty
    · simp only [hfits, if_true] at hread
      exact ((settles_readTail hfraction hexponent negative g.significand).congr hread).2
    · simp only [hfits, Bool.false_eq_true, if_false] at hread
      exact ((settles_readLong hfraction hexponent negative g.significand g.rest.length).congr
        hread).2

/-- Digits that are read do not make a number smaller. -/
lemma le_of_readDigits {n v : Nat} {ds : List Char} (h : Text.readDigits 10 n ds = some v) :
    n ≤ v := by
  induction ds generalizing n with
  | nil => exact Nat.le_of_eq (by simpa [Text.readDigits] using h)
  | cons c ds ih =>
    simp only [Text.readDigits] at h
    split at h
    · cases h
    · have := ih h
      omega

/-- The digits of a number that fits are all gathered.

**Proof sketch.** Induction on the digits. What has been gathered so far never exceeds the number,
so no digit is dropped. -/
lemma gather_of_readDigits {n v count : Nat} {ds : List Char}
    (hv : Text.readDigits 10 n ds = some v) (hlt : v < Text.limit64) :
    gather n count ds = ⟨v, count + ds.length, []⟩ := by
  induction ds generalizing n count with
  | nil =>
    obtain rfl : n = v := by simpa [Text.readDigits] using hv
    rfl
  | cons c ds ih =>
    simp only [Text.readDigits] at hv
    cases hc : Text.digitValue? 10 c with
    | none => simp [hc] at hv
    | some d =>
      simp only [hc] at hv
      have hle := le_of_readDigits hv
      simp only [gather, hc]
      rw [if_pos (by omega), ih hv]
      simp [Nat.add_assoc, Nat.add_comm 1]

/-- **A written number is read back.** It must fit 64 bits, and is read behind its sign.

**Proof sketch.** Zero is written as one digit and read as such. Any other number begins with
another digit, and all of its digits are gathered, since it fits. -/
lemma readNumber_decimal {n : Nat} (hn : n < Text.limit64) {rest : List Char} (hr : Ends rest)
    (negative : Bool) :
    readNumber negative (Text.decimal n ++ rest) = .ok (integer negative n, rest) := by
  obtain ⟨hne, hall⟩ := digits_decimal n
  have hread := Text.readDigits_decimal n
  cases hd : Text.decimal n with
  | nil => exact absurd hd hne
  | cons c ds =>
    by_cases hc : c = '0'
    · subst hc
      obtain ⟨rfl, rfl⟩ := Text.eq_zero_of_decimal_eq_cons hd
      exact (readNumber_zero hr.noDigit negative).trans (readTail_of_ends hr negative 0)
    · rw [hd] at hall hread
      rw [readNumber_append hc hall hr.noDigit, gather_of_readDigits hread hn]
      exact readTail_of_ends hr negative n

/-! ### How doubles are written -/

/-- Zeros are digits. -/
lemma isDigit_of_mem_replicate {n : Nat} {c : Char} (h : c ∈ List.replicate n '0') : c.isDigit := by
  rw [List.eq_of_mem_replicate h]
  decide

/-- Positionally, digits are written with a fraction.

**Proof sketch.** The point stands in front of all digits, behind all of them, or among them. Where
digits are missing on one side of it there are zeros. -/
lemma numeric_positional {ds : List Char} (h : Digits ds) (p : Int) :
    Numeric (Decimal.positional ds p) := by
  suffices hsplit : ∃ whole part, Digits whole ∧ Digits part ∧
      Decimal.positional ds p = whole ++ '.' :: part by
    obtain ⟨whole, part, hwhole, hpart, hp⟩ := hsplit
    exact ⟨whole, '.' :: part, [], hwhole, .inr ⟨part, hpart, rfl⟩, .inl rfl, by simp [hp]⟩
  unfold Decimal.positional
  split
  · refine ⟨['0'], List.replicate (-p).toNat '0' ++ ds, digits_zero, ⟨?_, ?_⟩, rfl⟩
    · simp [h.ne_nil]
    · intro c hc
      rcases List.mem_append.1 hc with hc | hc
      · exact isDigit_of_mem_replicate hc
      · exact h.isDigit c hc
  · split
    · refine ⟨ds ++ List.replicate (p.toNat - ds.length) '0', ['0'], ⟨?_, ?_⟩, digits_zero,
        rfl⟩
      · simp [h.ne_nil]
      · intro c hc
        rcases List.mem_append.1 hc with hc | hc
        · exact h.isDigit c hc
        · exact isDigit_of_mem_replicate hc
    · refine ⟨ds.take p.toNat, ds.drop p.toNat, ⟨?_, ?_⟩, ⟨?_, ?_⟩, rfl⟩
      · rw [Ne, List.take_eq_nil_iff]
        rintro (hp | hnil)
        · omega
        · exact h.ne_nil hnil
      · exact fun c hc => h.isDigit c (List.mem_of_mem_take hc)
      · rw [Ne, List.drop_eq_nil_iff]
        omega
      · exact fun c hc => h.isDigit c (List.mem_of_mem_drop hc)

/-- With an exponent, digits are written with a fraction if there are several.

**Proof sketch.** The first digit stands alone, and the others, if there are any, make the fraction.
The sign of the exponent is written, and its digits are those of a natural number. -/
lemma numeric_scientific {ds : List Char} (h : Digits ds) (p : Int) :
    Numeric (Decimal.scientific ds p) := by
  have hpower : ∀ n : Int, Exponent
      ('e' :: if n < 0 then Text.signedDecimal n else '+' :: Text.signedDecimal n) := by
    intro n
    cases n with
    | ofNat n =>
      have hpos : ¬ Int.ofNat n < 0 := Int.not_lt.2 (Int.natCast_nonneg n)
      rw [if_neg hpos]
      exact .inr ⟨'e', ['+'], Text.decimal n, .inl rfl, .inr (.inl rfl), digits_decimal n, rfl⟩
    | negSucc n =>
      rw [if_pos (Int.negSucc_lt_zero n)]
      exact .inr ⟨'e', ['-'], Text.decimal (n + 1), .inl rfl, .inr (.inr rfl),
        digits_decimal (n + 1), rfl⟩
  obtain ⟨d, ds, rfl⟩ := List.exists_cons_of_ne_nil h.ne_nil
  have hfirst : Digits [d] := ⟨by simp, by simpa using h.isDigit d (by simp)⟩
  cases ds with
  | nil => exact ⟨[d], [], _, hfirst, .inl rfl, hpower (p - 1), rfl⟩
  | cons d' ds =>
    have hrest : Digits (d' :: ds) := ⟨by simp, fun c hc => h.isDigit c (by simp [hc])⟩
    exact ⟨[d], '.' :: d' :: ds, _, hfirst, .inr ⟨_, hrest, rfl⟩, hpower (p - 1), rfl⟩

/-- A decimal is written as a number is. -/
lemma numeric_render (layout : Decimal.Layout) (s : Decimal.Scaled) :
    Numeric (s.render layout) := by
  unfold Decimal.Scaled.render
  dsimp only
  split
  · exact numeric_positional (digits_decimal s.coefficient) _
  · exact numeric_scientific (digits_decimal s.coefficient) _

/-- **How a double is written.** It is written as a number is, with a sign or without, or as a word
if it is none.

**Proof sketch.** The layout of a finite double that is not zero has digits (`numeric_render`), zero
is written as `0.0`, and what is not finite is written as a word. -/
lemma numberText_cases (x : Float) :
    numberText x = ['n', 'u', 'l', 'l'] ∨
      ∃ w, Numeric w ∧ (numberText x = w ∨ numberText x = '-' :: w) := by
  have hzero : Numeric ['0', '.', '0'] :=
    ⟨['0'], ['.', '0'], [], digits_zero, .inr ⟨['0'], digits_zero, rfl⟩,
      .inl rfl, rfl⟩
  have hsigned : ∀ (p : Prop) [Decidable p] (w : List Char), Numeric w →
      ∃ v, Numeric v ∧ ((if p then ['-'] else []) ++ w = v ∨
        (if p then ['-'] else []) ++ w = '-' :: v) := by
    intro p _ w hw
    split
    · exact ⟨w, hw, .inr rfl⟩
    · exact ⟨w, hw, .inl rfl⟩
  unfold numberText Decimal.render?
  dsimp only
  split
  · exact .inr (hsigned _ _ (numeric_render layout _))
  · split
    · exact .inr (hsigned _ _ hzero)
    · exact .inl rfl

end Messenger.Json
