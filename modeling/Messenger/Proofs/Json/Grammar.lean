import Messenger.Proofs.Json.RoundTrip

set_option relaxedAutoImplicit false
set_option autoImplicit false

/-!
# The grammar of JSON

Which texts are values at all, whatever they denote: words, numbers, texts between quotes, arrays
and objects, with blanks around every entry. A value of which nothing is kept is passed over exactly
to its end, however deep its arrays and objects nest.

## Main definitions

* `Messenger.Json.Quotable`: what may stand between the quotes of a text.
* `Messenger.Json.Number`: what a number is written as, behind its sign.
* `Messenger.Json.WellFormed`: the text of a value.

## Main results

* `Messenger.Json.skipText_quotable`, `Messenger.Json.skipNumber_number`: texts and numbers are
  passed over.
* `Messenger.Json.skipValue_wellFormed`: so is every value.
-/

namespace Messenger.Json

open Value (commaSeparated)

/-! ### Well-formed texts -/

/-- A digit of base sixteen, in either case. -/
def Hex (c : Char) : Prop :=
  c.isDigit ∨ ('a' ≤ c ∧ c ≤ 'f') ∨ ('A' ≤ c ∧ c ≤ 'F')

/-- The characters that make an escape together with a backslash. -/
def shortLetters : List Char :=
  ['"', '\\', '/', 'b', 'f', 'n', 'r', 't']

/-- What may stand between the quotes of a text: characters that need no escape, and escapes. -/
inductive Quotable : List Char → Prop
  | nil : Quotable []
  | plain {c : Char} {w : List Char} (hquote : c ≠ '"') (hslash : c ≠ '\\')
      (hcontrol : ¬ c.toNat < 0x20) (h : Quotable w) : Quotable (c :: w)
  | short {letter : Char} {w : List Char} (hletter : letter ∈ shortLetters) (h : Quotable w) :
      Quotable ('\\' :: letter :: w)
  | long {a b c d : Char} {w : List Char} (ha : Hex a) (hb : Hex b) (hc : Hex c) (hd : Hex d)
      (h : Quotable w) : Quotable ('\\' :: 'u' :: a :: b :: c :: d :: w)

/-- What a number is written as, behind its sign. A zero in front of its digits is the only one. -/
def Number (w : List Char) : Prop :=
  ∃ whole fraction exponent, Digits whole ∧ (whole.head? = some '0' → whole = ['0']) ∧
    Fraction fraction ∧ Exponent exponent ∧ w = whole ++ (fraction ++ exponent)

/-- The text of a value that is neither an array nor an object. -/
inductive Plain : List Char → Prop
  | null : Plain ['n', 'u', 'l', 'l']
  | yes : Plain ['t', 'r', 'u', 'e']
  | no : Plain ['f', 'a', 'l', 's', 'e']
  | number {w : List Char} (h : Number w) : Plain w
  | negative {w : List Char} (h : Number w) : Plain ('-' :: w)
  | text {w : List Char} (h : Quotable w) : Plain ('"' :: (w ++ ['"']))

/-- The text of an array. -/
def arrayText (blank : List Char) (items : List Entry) : List Char :=
  '[' :: (blank ++ (commaSeparated (items.map Entry.text) ++ [']']))

/-- The text of an object. -/
def objectText (blank : List Char) (members : List Member) : List Char :=
  '{' :: (blank ++ (commaSeparated (members.map Member.text) ++ ['}']))

/-- The text of a value. -/
inductive WellFormed : List Char → Prop
  | plain {w : List Char} (h : Plain w) : WellFormed w
  | array {blank : List Char} {items : List Entry} (hblank : Blank blank)
      (hspaced : ∀ e ∈ items, e.Spaced) (hcore : ∀ e ∈ items, WellFormed e.core) :
      WellFormed (arrayText blank items)
  | object {blank : List Char} {members : List Member} (hblank : Blank blank)
      (hspaced : ∀ m ∈ members, m.Spaced) (hname : ∀ m ∈ members, Quotable m.name)
      (hcore : ∀ m ∈ members, WellFormed m.value.core) : WellFormed (objectText blank members)

/-- No character needs an escape. -/
def Unescaped (w : List Char) : Prop :=
  ∀ c ∈ w, c ≠ '"' ∧ c ≠ '\\' ∧ ¬ c.toNat < 0x20

instance (w : List Char) : Decidable (Unescaped w) :=
  List.decidableBAll _ w

/-- Characters of which none needs an escape may stand between quotes. -/
lemma Unescaped.quotable {w : List Char} (h : Unescaped w) : Quotable w := by
  induction w with
  | nil => exact .nil
  | cons c w ih =>
    obtain ⟨hquote, hslash, hcontrol⟩ := h c (by simp)
    exact .plain hquote hslash hcontrol (ih fun d hd => h d (by simp [hd]))

/-- A number of the grammar is one that is written in digits. -/
lemma Number.numeric {w : List Char} (h : Number w) : Numeric w := by
  obtain ⟨whole, fraction, exponent, hwhole, -, hfraction, hexponent, rfl⟩ := h
  exact ⟨whole, fraction, exponent, hwhole, hfraction, hexponent, rfl⟩

/-- What opens a plain value opens neither an array nor an object. -/
lemma Plain.opens {w : List Char} (h : Plain w) :
    ∃ c s, w = c :: s ∧ isSpace c = false ∧ c ≠ ',' ∧ c ≠ ']' ∧ c ≠ '[' ∧ c ≠ '{' := by
  cases h with
  | null => exact ⟨'n', _, rfl, by decide⟩
  | yes => exact ⟨'t', _, rfl, by decide⟩
  | no => exact ⟨'f', _, rfl, by decide⟩
  | number h => exact Value.opens_numeric h.numeric
  | negative h => exact ⟨'-', _, rfl, by decide⟩
  | text h => exact ⟨'"', _, rfl, by decide⟩

/-- Every value begins as a value does. -/
lemma WellFormed.opens {w : List Char} (h : WellFormed w) : Opens w := by
  cases h with
  | plain h =>
    obtain ⟨c, s, hw, hspace, hcomma, hbracket, -⟩ := h.opens
    exact ⟨c, s, hw, hspace, hcomma, hbracket⟩
  | array => exact ⟨'[', _, rfl, by decide⟩
  | object => exact ⟨'{', _, rfl, by decide⟩

/-! ### Texts and numbers are passed over -/

/-- Four digits of base sixteen denote a code unit.

**Proof sketch.** A digit of base sixteen is a code point in one of three short ranges, in each of
which it has a value below sixteen. -/
lemma exists_unit? {a b c d : Char} (ha : Hex a) (hb : Hex b) (hc : Hex c) (hd : Hex d) :
    ∃ n, unit? a b c d = some n := by
  have hvalue : ∀ {x : Char}, Hex x → ∃ v, Text.digitValue? 16 x = some v := by
    intro x hx
    have hcode : ∀ {y : Char}, y.val.toNat = y.toNat := rfl
    simp only [Hex, Char.isDigit, Bool.and_eq_true, decide_eq_true_eq, Char.le_def,
      UInt32.le_iff_toNat_le, ge_iff_le, hcode] at hx
    simp only [Text.digitValue?, Text.digitValue36?, Char.le_def, UInt32.le_iff_toNat_le, hcode]
    have h0 : '0'.toNat = 48 := rfl
    have h9 : '9'.toNat = 57 := rfl
    have ha : 'a'.toNat = 97 := rfl
    have hf : 'f'.toNat = 102 := rfl
    have hz : 'z'.toNat = 122 := rfl
    have hA : 'A'.toNat = 65 := rfl
    have hF : 'F'.toNat = 70 := rfl
    have hZ : 'Z'.toNat = 90 := rfl
    split
    · exact ⟨_, Option.filter_some_pos (by simp; omega)⟩
    · split
      · exact ⟨_, Option.filter_some_pos (by simp; omega)⟩
      · rw [if_pos (by omega)]
        exact ⟨_, Option.filter_some_pos (by simp; omega)⟩
  obtain ⟨va, ha⟩ := hvalue ha
  obtain ⟨vb, hb⟩ := hvalue hb
  obtain ⟨vc, hc⟩ := hvalue hc
  obtain ⟨vd, hd⟩ := hvalue hd
  simp [unit?, Text.readDigits, ha, hb, hc, hd]

/-- **Texts are passed over.** The reader goes up to the closing quote, and no further.

**Proof sketch.** Induction on what stands between the quotes: a character that stands for itself, a
short escape, or one of four digits, which denote a code unit (`exists_unit?`). -/
lemma skipText_quotable {w : List Char} (h : Quotable w) (rest : List Char) :
    skipText (w ++ '"' :: rest) = .ok rest := by
  induction h with
  | nil => rfl
  | plain hquote hslash hcontrol _ ih =>
    rw [List.cons_append, skipText.eq_def]
    split
    all_goals simp_all
  | short hletter _ ih =>
    simp only [shortLetters, List.mem_cons, List.not_mem_nil, or_false] at hletter
    rcases hletter with rfl | rfl | rfl | rfl | rfl | rfl | rfl | rfl <;> exact ih
  | long ha hb hc hd _ ih =>
    obtain ⟨n, hn⟩ := exists_unit? ha hb hc hd
    simp only [List.cons_append, skipText, hn]
    exact ih

/-- An exponent is passed over.

**Proof sketch.** Without an exponent nothing is passed over, since what follows is no letter of
one. With one, all its digits are, sign or not, and what follows is no further digit. -/
lemma skipScaled_exponent {exponent rest : List Char} (h : Exponent exponent) (hrest : Ends rest) :
    skipScaled (exponent ++ rest) = .ok rest := by
  rcases h with rfl | ⟨letter, sign, ds, hletter, hsign, ⟨hne, hall⟩, rfl⟩
  · rw [List.nil_append]
    unfold skipScaled
    split
    · exact absurd rfl (hrest 'e' rfl).2.2.1
    · exact absurd rfl (hrest 'E' rfl).2.2.2
    · rfl
  · obtain ⟨c, ds, rfl⟩ := List.exists_cons_of_ne_nil hne
    have hc : c.isDigit := hall c (by simp)
    have htail : ∀ x ∈ ds, x.isDigit := fun x hx => hall x (by simp [hx])
    have hdrop := Text.dropWhile_isDigit_append htail hrest.noDigit
    have hexponent : skipExponent (sign ++ c :: ds ++ rest) = .ok rest := by
      rcases hsign with rfl | rfl | rfl
      · rw [List.nil_append, List.cons_append]
        unfold skipExponent
        split
        · next hs => exact absurd hc (by rw [(List.cons.inj hs).1]; decide)
        · next hs => exact absurd hc (by rw [(List.cons.inj hs).1]; decide)
        · simp only [hc, if_true, hdrop]
      · simp [skipExponent, hc, hdrop]
      · simp [skipExponent, hc, hdrop]
    rcases hletter with rfl | rfl <;> exact hexponent

/-- What may follow the first digits of a number is passed over. -/
lemma skipTail_append {fraction exponent rest : List Char} (hfraction : Fraction fraction)
    (hexponent : Exponent exponent) (hrest : Ends rest) :
    skipTail (fraction ++ exponent ++ rest) = .ok rest := by
  have hscaled := skipScaled_exponent hexponent hrest
  rcases hfraction with rfl | ⟨ds, ⟨hne, hall⟩, rfl⟩
  · have hpoint := hexponent.append_ne_point hrest
    rw [List.nil_append]
    unfold skipTail
    split
    · next c s heq => exact absurd heq (hpoint (c :: s))
    · next heq => exact absurd heq (hpoint [])
    · exact hscaled
  · obtain ⟨c, ds, rfl⟩ := List.exists_cons_of_ne_nil hne
    have htail : ∀ x ∈ ds, x.isDigit := fun x hx => hall x (by simp [hx])
    have hdrop := Text.dropWhile_isDigit_append htail (hexponent.noDigit hrest)
    simp only [List.cons_append, List.append_assoc, skipTail, hall c (by simp), if_true, hdrop,
      hscaled]

/-- **Numbers are passed over.** The reader goes up to where the number ends.

**Proof sketch.** A number begins with a zero that stands alone or with any other digit. In both
cases all digits are passed over, since what follows is none, and then fraction and exponent
(`skipTail_append`). -/
lemma skipNumber_number {w rest : List Char} (h : Number w) (hrest : Ends rest) :
    skipNumber (w ++ rest) = .ok rest := by
  obtain ⟨whole, fraction, exponent, ⟨hne, hall⟩, hzero, hfraction, hexponent, rfl⟩ := h
  obtain ⟨c, ds, rfl⟩ := List.exists_cons_of_ne_nil hne
  have htail := skipTail_append hfraction hexponent hrest
  have hnodigit : Text.NoDigit (fraction ++ exponent ++ rest) := by
    rw [List.append_assoc]
    exact hfraction.noDigit (hexponent.noDigit hrest)
  rw [List.append_assoc, List.cons_append]
  -- A zero in front is all of the whole part.
  by_cases hc : c = '0'
  · subst hc
    obtain ⟨-, rfl⟩ := List.cons.inj (hzero rfl)
    rw [List.nil_append]
    cases hs : fraction ++ exponent ++ rest with
    | nil =>
      rw [hs] at htail
      exact htail
    | cons d s =>
      rw [hs] at htail hnodigit
      simp only [skipNumber, hnodigit d rfl, Bool.false_eq_true, if_false]
      exact htail
  · have hds : ∀ x ∈ ds, x.isDigit := fun x hx => hall x (by simp [hx])
    have hdrop := Text.dropWhile_isDigit_append hds hnodigit
    rw [skipNumber.eq_def]
    split
    · next heq => exact absurd (List.cons.inj heq).1 hc
    · next heq => exact absurd (List.cons.inj heq).1 hc
    · next heq =>
      cases heq
      rw [if_pos (hall c (by simp)), hdrop]
      exact htail
    · next heq => cases heq

/-- A plain value is passed over.

**Proof sketch.** By what kind of value it is. A number begins with a digit, so none of the branches
for words, signs and quotes takes it. -/
lemma skipScalar_plain {w rest : List Char} (h : Plain w) (hrest : Ends rest) :
    skipScalar (w ++ rest) = .ok rest := by
  cases h with
  | null => rfl
  | yes => rfl
  | no => rfl
  | number h =>
    have hnumber := skipNumber_number h hrest
    obtain ⟨whole, fraction, exponent, ⟨hne, hall⟩, -, -, -, rfl⟩ := h
    obtain ⟨c, ds, rfl⟩ := List.exists_cons_of_ne_nil hne
    have hc : c.isDigit := hall c (by simp)
    simp only [List.cons_append] at hnumber ⊢
    unfold skipScalar
    split
    all_goals try (next heq => cases heq; exact absurd hc (by decide))
    · next heq => cases heq
    · next heq =>
      cases heq
      rw [if_pos hc]
      exact hnumber
  | negative h => exact skipNumber_number h hrest
  | text h =>
    show skipText (_ ++ ['"'] ++ rest) = _
    rw [List.append_assoc]
    exact skipText_quotable h rest

/-! ### Values are passed over -/

/-- A value is passed over, inside of whatever enclosures are open, in a number of turns that its
length bounds. -/
def Passes (w : List Char) : Prop :=
  ∃ turns, turns < 2 * w.length ∧ ∀ more enclosing rest, Ends rest →
    skipFrom (turns + more) enclosing .value (w ++ rest) = skipFrom more enclosing .comma rest

/-- Blanks in front of a value are passed over. -/
lemma skipFrom_value_blank {blank : List Char} (h : Blank blank) (turns : Nat)
    (enclosing : List Enclosure) (s : List Char) :
    skipFrom turns enclosing .value (blank ++ s) = skipFrom turns enclosing .value s := by
  cases turns with
  | zero => rfl
  | succ turns =>
    simp only [skipFrom]
    rw [skipSpace_append h]

/-- A bracket opens an array. -/
lemma skipFrom_openArray (turns : Nat) (enclosing : List Enclosure) (s : List Char) :
    skipFrom (turns + 1) enclosing .value ('[' :: s) =
      skipFrom turns (.array :: enclosing) .entry s := rfl

/-- A brace opens an object. -/
lemma skipFrom_openObject (turns : Nat) (enclosing : List Enclosure) (s : List Char) :
    skipFrom (turns + 1) enclosing .value ('{' :: s) =
      skipFrom turns (.object :: enclosing) .entry s := rfl

/-- A bracket closes the array, empty or not. -/
lemma skipFrom_closeArray {blank : List Char} (h : Blank blank) {expectation : Expectation}
    (hexpectation : expectation ≠ .value) (turns : Nat) (enclosing : List Enclosure)
    (rest : List Char) :
    skipFrom (turns + 1) (.array :: enclosing) expectation (blank ++ ']' :: rest) =
      skipFrom turns enclosing .comma rest := by
  cases expectation with
  | value => exact absurd rfl hexpectation
  | entry =>
    simp only [skipFrom]
    rw [skipSpace_append_cons h (by decide)]
    rfl
  | comma =>
    simp only [skipFrom]
    rw [skipSpace_append_cons h (by decide)]
    rfl

/-- A brace closes the object, empty or not. -/
lemma skipFrom_closeObject {blank : List Char} (h : Blank blank) {expectation : Expectation}
    (hexpectation : expectation ≠ .value) (turns : Nat) (enclosing : List Enclosure)
    (rest : List Char) :
    skipFrom (turns + 1) (.object :: enclosing) expectation (blank ++ '}' :: rest) =
      skipFrom turns enclosing .comma rest := by
  cases expectation with
  | value => exact absurd rfl hexpectation
  | entry =>
    simp only [skipFrom]
    rw [skipSpace_append_cons h (by decide)]
    rfl
  | comma =>
    simp only [skipFrom]
    rw [skipSpace_append_cons h (by decide)]
    rfl

/-- The first item of an array begins behind the blanks. -/
lemma skipFrom_firstItem {blank written : List Char} (hblank : Blank blank) (h : Opens written)
    (turns : Nat) (enclosing : List Enclosure) (rest : List Char) :
    skipFrom (turns + 1) (.array :: enclosing) .entry (blank ++ (written ++ rest)) =
      skipFrom turns (.array :: enclosing) .value (written ++ rest) := by
  obtain ⟨c, s, rfl, hspace, -, hbracket⟩ := h
  simp only [List.cons_append, skipFrom.eq_def (turns + 1)]
  rw [skipSpace_append_cons hblank hspace]
  split
  · next heq => cases heq
  · next heq => exact absurd (List.cons.inj heq).1 hbracket
  · next hentry => cases hentry
  · next hentry _ _ _ => cases hentry
  · rfl

/-- Any other item of an array begins behind a comma. -/
lemma skipFrom_commaItem {blank : List Char} (h : Blank blank) (turns : Nat)
    (enclosing : List Enclosure) (s : List Char) :
    skipFrom (turns + 1) (.array :: enclosing) .comma (blank ++ ',' :: s) =
      skipFrom turns (.array :: enclosing) .value s := by
  simp only [skipFrom.eq_def (turns + 1)]
  rw [skipSpace_append_cons h (by decide)]
  rfl

/-- A name is passed over with its colon. -/
lemma skipName_opened {m : Member} (hname : Quotable m.name) (hspaced : m.Spaced)
    {blank : List Char} (hblank : Blank blank) (rest : List Char) :
    skipName (blank ++ '"' :: (m.opened ++ rest)) =
      .ok (m.value.upTo ++ (m.value.after ++ rest)) := by
  have hsplit : m.opened ++ rest =
      m.name ++ '"' :: (m.between ++ ':' :: (m.value.upTo ++ (m.value.after ++ rest))) := by
    simp [Member.opened, Member.label, Entry.text]
  unfold skipName
  rw [hsplit, skipSpace_append_cons hblank (by decide)]
  simp only [skipText_quotable hname, expectColon_colon hspaced.between]

/-- The value of the first member of an object begins behind its name. -/
lemma skipFrom_firstMember {blank : List Char} (hblank : Blank blank) {m : Member}
    (hname : Quotable m.name) (hspaced : m.Spaced) (turns : Nat) (enclosing : List Enclosure)
    (rest : List Char) :
    skipFrom (turns + 1) (.object :: enclosing) .entry (blank ++ '"' :: (m.opened ++ rest)) =
      skipFrom turns (.object :: enclosing) .value
        (m.value.upTo ++ (m.value.after ++ rest)) := by
  have hopened := skipName_opened hname hspaced blank_nil rest
  rw [List.nil_append] at hopened
  simp only [skipFrom.eq_def (turns + 1)]
  rw [skipSpace_append_cons hblank (by decide)]
  split
  · next heq => cases heq
  · next heq => exact absurd (List.cons.inj heq).1 (by decide)
  · next hentry => cases hentry
  · next hentry _ _ _ => cases hentry
  · simp only [hopened]

/-- The value of any other member begins behind a comma and its name. -/
lemma skipFrom_commaMember {blank : List Char} (hblank : Blank blank) {m : Member}
    (hname : Quotable m.name) (hspaced : m.Spaced) (turns : Nat) (enclosing : List Enclosure)
    (rest : List Char) :
    skipFrom (turns + 1) (.object :: enclosing) .comma (blank ++ ',' :: (m.text ++ rest)) =
      skipFrom turns (.object :: enclosing) .value
        (m.value.upTo ++ (m.value.after ++ rest)) := by
  have hopened := skipName_opened hname hspaced hspaced.before rest
  have hsplit : m.text ++ rest = m.before ++ '"' :: (m.opened ++ rest) := by
    simp [Member.text]
  simp only [skipFrom.eq_def (turns + 1)]
  rw [skipSpace_append_cons hblank (by decide), hsplit]
  simp only [hopened]

/-- A value is passed over with the blanks in front of it. -/
lemma Passes.upTo {e : Entry} (h : Passes e.core) (hbefore : Blank e.before) : Passes e.upTo := by
  obtain ⟨turns, hturns, hskip⟩ := h
  refine ⟨turns, ?_, fun more enclosing rest hrest => ?_⟩
  · rw [Entry.upTo, List.length_append]
    omega
  · rw [Entry.upTo, List.append_assoc, skipFrom_value_blank hbefore]
    exact hskip more enclosing rest hrest

/-- A plain value takes one turn. -/
lemma Plain.passes {w : List Char} (h : Plain w) : Passes w := by
  obtain ⟨c, s, hw, hspace, -, -, harray, hobject⟩ := h.opens
  refine ⟨1, ?_, fun more enclosing rest hrest => ?_⟩
  · rw [hw, List.length_cons]
    omega
  · have hscalar := skipScalar_plain h hrest
    rw [hw, List.cons_append] at hscalar ⊢
    rw [Nat.add_comm, skipFrom.eq_def]
    dsimp only
    rw [skipSpace_cons hspace]
    split
    · next heq => exact absurd (List.cons.inj heq).1 harray
    · next heq => exact absurd (List.cons.inj heq).1 hobject
    · rw [hscalar]

/-- The items of an array behind the first are passed over, and then its bracket.

**Proof sketch.** Induction on the items. One turn passes over the comma, and then the item is
passed over. -/
lemma skipFrom_items {items : List Entry} (hspaced : ∀ e ∈ items, e.Spaced)
    (hpasses : ∀ e ∈ items, Passes e.upTo) :
    ∃ turns, turns ≤ 2 * (commaLed (items.map Entry.text)).length ∧
      ∀ more enclosing blank rest, Blank blank →
        skipFrom (turns + (more + 1)) (.array :: enclosing) .comma
            (blank ++ (commaLed (items.map Entry.text) ++ ']' :: rest)) =
          skipFrom more enclosing .comma rest := by
  induction items with
  | nil =>
    refine ⟨0, Nat.zero_le _, fun more enclosing blank rest hblank => ?_⟩
    rw [Nat.zero_add]
    exact skipFrom_closeArray hblank (by decide) more enclosing rest
  | cons e items ih =>
    obtain ⟨later, hlater, hskip⟩ := ih (fun y hy => hspaced y (by simp [hy]))
      (fun y hy => hpasses y (by simp [hy]))
    obtain ⟨turns, hturns, hvalue⟩ := hpasses e (by simp)
    refine ⟨1 + turns + later, ?_, fun more enclosing blank rest hblank => ?_⟩
    · simp only [List.map_cons, commaLed, List.flatMap_cons, List.length_append, List.length_cons,
        Entry.text] at hlater ⊢
      omega
    · set left := commaLed (items.map Entry.text) ++ ']' :: rest with hleft
      have hsplit : commaLed ((e :: items).map Entry.text) ++ ']' :: rest =
          ',' :: (e.upTo ++ (e.after ++ left)) := by
        simp [commaLed, Entry.text, hleft]
      have hafter := (hspaced e (by simp)).after
      have hends : Ends (e.after ++ left) := ends_blank hafter (ends_commaLed _ (ends_bracket rest))
      rw [hsplit, show 1 + turns + later + (more + 1) = turns + (later + (more + 1)) + 1 by omega,
        skipFrom_commaItem hblank, hvalue _ _ _ hends, hleft]
      exact hskip more enclosing e.after rest hafter

/-- An array is passed over if its items are.

**Proof sketch.** An array without items takes two turns. Otherwise a turn goes to each of the two
brackets and to the blanks in front of the first item, some go to the core of that, and the rest to
the items behind commas (`skipFrom_items`); all of them together are fewer than twice the characters
of the text. -/
lemma passes_array {blank : List Char} {items : List Entry} (hblank : Blank blank)
    (hspaced : ∀ e ∈ items, e.Spaced) (hopens : ∀ e ∈ items, Opens e.core)
    (hpasses : ∀ e ∈ items, Passes e.core) : Passes (arrayText blank items) := by
  cases items with
  | nil =>
    refine ⟨2, ?_, fun more enclosing rest _ => ?_⟩
    · simp [arrayText, commaSeparated]
    · have hsplit : arrayText blank [] ++ rest = '[' :: (blank ++ ']' :: rest) := by
        simp [arrayText, commaSeparated]
      rw [hsplit, show 2 + more = more + 1 + 1 by omega, skipFrom_openArray,
        skipFrom_closeArray hblank (by decide)]
  | cons e items =>
    obtain ⟨hbefore, hafter⟩ := hspaced e (by simp)
    obtain ⟨turns, hturns, hvalue⟩ := hpasses e (by simp)
    have hrest : ∀ y ∈ items, y.Spaced := fun y hy => hspaced y (by simp [hy])
    obtain ⟨later, hlater, hskip⟩ := skipFrom_items hrest
      fun y hy => (hpasses y (by simp [hy])).upTo (hrest y hy).before
    refine ⟨2 + turns + later + 1, ?_, fun more enclosing rest _ => ?_⟩
    · rw [arrayText, List.map_cons, commaSeparated_cons]
      simp only [List.length_cons, List.length_append, Entry.text, Entry.upTo]
      omega
    · set left := commaLed (items.map Entry.text) ++ ']' :: rest with hleft
      have hsplit : arrayText blank (e :: items) ++ rest =
          '[' :: (blank ++ e.before ++ (e.core ++ (e.after ++ left))) := by
        rw [arrayText, List.map_cons, commaSeparated_cons]
        simp [Entry.text, Entry.upTo, hleft]
      have hends : Ends (e.after ++ left) := ends_blank hafter (ends_commaLed _ (ends_bracket rest))
      rw [hsplit, show 2 + turns + later + 1 + more = turns + (later + (more + 1)) + 1 + 1 by omega,
        skipFrom_openArray, skipFrom_firstItem (hblank.append hbefore) (hopens e (by simp)),
        hvalue _ _ _ hends, hleft]
      exact hskip more enclosing e.after rest hafter

/-- The members of an object behind the first are passed over, and then its brace.

**Proof sketch.** Induction on the members. One turn passes over the comma and the name, and then
the value is passed over. -/
lemma skipFrom_members {members : List Member} (hspaced : ∀ m ∈ members, m.Spaced)
    (hname : ∀ m ∈ members, Quotable m.name) (hpasses : ∀ m ∈ members, Passes m.value.upTo) :
    ∃ turns, turns ≤ 2 * (commaLed (members.map Member.text)).length ∧
      ∀ more enclosing blank rest, Blank blank →
        skipFrom (turns + (more + 1)) (.object :: enclosing) .comma
            (blank ++ (commaLed (members.map Member.text) ++ '}' :: rest)) =
          skipFrom more enclosing .comma rest := by
  induction members with
  | nil =>
    refine ⟨0, Nat.zero_le _, fun more enclosing blank rest hblank => ?_⟩
    rw [Nat.zero_add]
    exact skipFrom_closeObject hblank (by decide) more enclosing rest
  | cons m members ih =>
    obtain ⟨later, hlater, hskip⟩ := ih (fun y hy => hspaced y (by simp [hy]))
      (fun y hy => hname y (by simp [hy])) (fun y hy => hpasses y (by simp [hy]))
    obtain ⟨turns, hturns, hvalue⟩ := hpasses m (by simp)
    refine ⟨1 + turns + later, ?_, fun more enclosing blank rest hblank => ?_⟩
    · simp only [List.map_cons, commaLed, List.flatMap_cons, List.length_append, List.length_cons,
        Member.text, Member.opened, Entry.text] at hlater ⊢
      omega
    · set left := commaLed (members.map Member.text) ++ '}' :: rest with hleft
      have hm := hspaced m (by simp)
      have hsplit : commaLed ((m :: members).map Member.text) ++ '}' :: rest =
          ',' :: (m.text ++ left) := by
        simp [commaLed, hleft]
      have hends : Ends (m.value.after ++ left) :=
        ends_blank hm.value.after (ends_commaLed _ (ends_brace rest))
      rw [hsplit, show 1 + turns + later + (more + 1) = turns + (later + (more + 1)) + 1 by omega,
        skipFrom_commaMember hblank (hname m (by simp)) hm, hvalue _ _ _ hends, hleft]
      exact hskip more enclosing m.value.after rest hm.value.after

/-- An object is passed over if the values of its members are.

**Proof sketch.** As for an array (`passes_array`). The turn that goes to the blanks in front of the
first item there goes to the name of the first member here. -/
lemma passes_object {blank : List Char} {members : List Member} (hblank : Blank blank)
    (hspaced : ∀ m ∈ members, m.Spaced) (hname : ∀ m ∈ members, Quotable m.name)
    (hpasses : ∀ m ∈ members, Passes m.value.core) : Passes (objectText blank members) := by
  cases members with
  | nil =>
    refine ⟨2, ?_, fun more enclosing rest _ => ?_⟩
    · simp [objectText, commaSeparated]
    · have hsplit : objectText blank [] ++ rest = '{' :: (blank ++ '}' :: rest) := by
        simp [objectText, commaSeparated]
      rw [hsplit, show 2 + more = more + 1 + 1 by omega, skipFrom_openObject,
        skipFrom_closeObject hblank (by decide)]
  | cons m members =>
    have hm := hspaced m (by simp)
    obtain ⟨turns, hturns, hvalue⟩ := (hpasses m (by simp)).upTo hm.value.before
    have hrest : ∀ y ∈ members, y.Spaced := fun y hy => hspaced y (by simp [hy])
    obtain ⟨later, hlater, hskip⟩ := skipFrom_members hrest (fun y hy => hname y (by simp [hy]))
      fun y hy => (hpasses y (by simp [hy])).upTo (hrest y hy).value.before
    refine ⟨2 + turns + later + 1, ?_, fun more enclosing rest _ => ?_⟩
    · rw [objectText, List.map_cons, commaSeparated_cons]
      simp only [List.length_cons, List.length_append, Member.text, Member.opened, Entry.text]
      omega
    · set left := commaLed (members.map Member.text) ++ '}' :: rest with hleft
      have hsplit : objectText blank (m :: members) ++ rest =
          '{' :: (blank ++ m.before ++ '"' :: (m.opened ++ left)) := by
        rw [objectText, List.map_cons, commaSeparated_cons]
        simp [Member.text, hleft]
      have hends : Ends (m.value.after ++ left) :=
        ends_blank hm.value.after (ends_commaLed _ (ends_brace rest))
      rw [hsplit, show 2 + turns + later + 1 + more = turns + (later + (more + 1)) + 1 + 1 by omega,
        skipFrom_openObject, skipFrom_firstMember (hblank.append hm.before) (hname m (by simp)) hm,
        hvalue _ _ _ hends, hleft]
      exact hskip more enclosing m.value.after rest hm.value.after

/-- Every value is passed over, inside of whatever enclosures are open.

**Proof sketch.** Induction on the grammar. An array takes one turn for its bracket and one for
every comma, an object one for its brace and one for every comma and name. -/
theorem WellFormed.passes {w : List Char} (h : WellFormed w) : Passes w := by
  induction h with
  | plain h => exact h.passes
  | array hblank hspaced hcore ih =>
    exact passes_array hblank hspaced (fun e he => (hcore e he).opens) ih
  | object hblank hspaced hname _ ih => exact passes_object hblank hspaced hname ih

/-- **Values are passed over.** A value of which nothing is kept is passed over exactly to its end,
with the blanks in front of it, however deep its arrays and objects nest.

**Proof sketch.** A value takes fewer turns than twice the length of its text (`WellFormed.passes`),
and there are as many. -/
theorem skipValue_wellFormed {blank w rest : List Char} (hblank : Blank blank) (h : WellFormed w)
    (hrest : Ends rest) : skipValue (blank ++ (w ++ rest)) = .ok rest := by
  obtain ⟨turns, hturns, hskip⟩ := h.passes
  obtain ⟨more, hmore⟩ : ∃ more, 2 * (blank ++ (w ++ rest)).length + 2 = turns + (more + 1) := by
    refine ⟨2 * (blank ++ (w ++ rest)).length + 1 - turns, ?_⟩
    simp only [List.length_append]
    omega
  rw [skipValue, hmore, skipFrom_value_blank hblank, hskip _ _ _ hrest]
  rfl

end Messenger.Json
