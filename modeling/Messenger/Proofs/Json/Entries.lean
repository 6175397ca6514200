import Mathlib.Tactic.Lemma
import Mathlib.Tactic.Set
import Messenger.Json.Reader
import Messenger.Proofs.Text.Decimal

set_option relaxedAutoImplicit false
set_option autoImplicit false

/-!
# Written entries are read back

An array or an object of anything is read back from its written form exactly if its entries are,
whatever they are, whatever blanks stand around them, and whatever follows.

## Main definitions

* `Messenger.Json.Ends`: a text does not go on as a number would.
* `Messenger.Json.Blank`: a text of blanks.
* `Messenger.Json.Entry`, `Messenger.Json.Member`: an item of an array and a member of an object, as
  they stand in a text.
* `Messenger.Json.Opens`: a text begins as the written form of a value does.
* `Messenger.Json.outcome?`: what a reader makes of a text as a whole.
* `Messenger.Json.Settles`: a reader makes the same of a text, whatever follows it.
* `Messenger.Json.ReadsBack`: a reader takes what was written for a thing.

## Main results

* `Messenger.Json.toOption_readItems_spaced`: an array is read exactly if each of its items is.
* `Messenger.Json.toOption_readMembers_spaced`: so is an object, with its members.
* `Messenger.Json.toOption_readItems`, `Messenger.Json.toOption_readMembers`: the same without
  blanks.
-/

namespace Messenger.Json

open Value (commaSeparated)

/-! ### Where a written value ends -/

/-- The text does not go on as a number would. -/
def Ends (rest : List Char) : Prop :=
  ∀ c, rest.head? = some c → c.isDigit = false ∧ c ≠ '.' ∧ c ≠ 'e' ∧ c ≠ 'E'

/-- A text that ends a number does not go on with a digit. -/
lemma Ends.noDigit {rest : List Char} (h : Ends rest) : Text.NoDigit rest :=
  fun c hc => (h c hc).1

/-- Nothing ends a number. -/
lemma ends_nil : Ends [] := by
  intro c hc
  cases hc

/-- A text goes on with its first character. -/
lemma ends_cons {c : Char} (h : c.isDigit = false ∧ c ≠ '.' ∧ c ≠ 'e' ∧ c ≠ 'E')
    (rest : List Char) : Ends (c :: rest) := by
  intro d hd
  cases hd
  exact h

/-- A comma ends a number. -/
lemma ends_comma (rest : List Char) : Ends (',' :: rest) :=
  ends_cons (by decide) rest

/-- A closing bracket ends a number. -/
lemma ends_bracket (rest : List Char) : Ends (']' :: rest) :=
  ends_cons (by decide) rest

/-- A closing brace ends a number. -/
lemma ends_brace (rest : List Char) : Ends ('}' :: rest) :=
  ends_cons (by decide) rest

/-- Nothing is skipped in front of what is not blank. -/
lemma skipSpace_cons {c : Char} (h : isSpace c = false) (rest : List Char) :
    skipSpace (c :: rest) = c :: rest := by
  simp [skipSpace, h]

/-! ### Blanks -/

/-- Nothing but blanks. -/
def Blank (s : List Char) : Prop :=
  ∀ c ∈ s, isSpace c

instance (s : List Char) : Decidable (Blank s) :=
  List.decidableBAll _ s

/-- Nothing is blank. -/
lemma blank_nil : Blank [] := by
  intro c hc
  cases hc

/-- Blanks and more blanks are blanks. -/
lemma Blank.append {s t : List Char} (hs : Blank s) (ht : Blank t) : Blank (s ++ t) := by
  intro c hc
  rcases List.mem_append.1 hc with hc | hc
  · exact hs c hc
  · exact ht c hc

/-- Blanks are skipped. -/
lemma skipSpace_append {blank : List Char} (h : Blank blank) (s : List Char) :
    skipSpace (blank ++ s) = skipSpace s := by
  induction blank with
  | nil => rfl
  | cons c blank ih =>
    have hc : isSpace c := h c (by simp)
    show List.dropWhile isSpace (c :: (blank ++ s)) = _
    rw [List.dropWhile_cons_of_pos hc]
    exact ih fun d hd => h d (by simp [hd])

/-- Blanks are skipped up to what is not blank. -/
lemma skipSpace_append_cons {blank : List Char} (h : Blank blank) {c : Char}
    (hc : isSpace c = false) (rest : List Char) : skipSpace (blank ++ c :: rest) = c :: rest := by
  rw [skipSpace_append h, skipSpace_cons hc]

/-- Blanks end a number. -/
lemma ends_blank {blank rest : List Char} (h : Blank blank) (hrest : Ends rest) :
    Ends (blank ++ rest) := by
  cases blank with
  | nil => exact hrest
  | cons c blank =>
    have hc : isSpace c := h c (by simp)
    refine ends_cons ?_ _
    simp only [isSpace, Bool.or_eq_true, decide_eq_true_eq] at hc
    rcases hc with ((rfl | rfl) | rfl) | rfl <;> decide

/-! ### Entries of arrays and objects -/

/-- An item of an array or the value of a member, with the blanks around it. -/
structure Entry where
  before : List Char
  core : List Char
  after : List Char

/-- The text of an entry up to its end. -/
def Entry.upTo (e : Entry) : List Char :=
  e.before ++ e.core

/-- The text of an entry. -/
def Entry.text (e : Entry) : List Char :=
  e.upTo ++ e.after

/-- Nothing but blanks stands around an entry. -/
structure Entry.Spaced (e : Entry) : Prop where
  before : Blank e.before
  after : Blank e.after

/-- An entry without blanks. -/
def Entry.bare (w : List Char) : Entry :=
  ⟨[], w, []⟩

/-- There are no other characters around it. -/
lemma Entry.spaced_bare (w : List Char) : (Entry.bare w).Spaced :=
  ⟨blank_nil, blank_nil⟩

/-- Its text is what stands in it. -/
lemma Entry.text_bare (w : List Char) : (Entry.bare w).text = w := by
  simp [Entry.text, Entry.upTo, Entry.bare]

/-- A member of an object: its name between quotes, and its value behind a colon. -/
structure Member where
  before : List Char
  name : List Char
  between : List Char
  value : Entry

/-- The name of a member with the quote that ends it. -/
def Member.label (m : Member) : List Char :=
  m.name ++ ['"']

/-- The text of a member behind the quote that opens its name. -/
def Member.opened (m : Member) : List Char :=
  m.label ++ (m.between ++ ':' :: m.value.text)

/-- The text of a member. -/
def Member.text (m : Member) : List Char :=
  m.before ++ '"' :: m.opened

/-- Nothing but blanks stands around a member, its name and its value. -/
structure Member.Spaced (m : Member) : Prop where
  before : Blank m.before
  between : Blank m.between
  value : m.value.Spaced

/-- A written form begins with a character that is neither blank nor a comma nor a closing
bracket. -/
def Opens (written : List Char) : Prop :=
  ∃ c s, written = c :: s ∧ isSpace c = false ∧ c ≠ ',' ∧ c ≠ ']'

/-- What a reader makes of a text as a whole, if it accepts it. -/
def outcome? {α : Type} (item : Reader α) (written : List Char) : Option α :=
  (item written).toOption.map (·.1)

/-- Whatever follows a written text, a reader takes all of that text and nothing else, and makes the
same of it; or it accepts none of it. -/
def Settles {α : Type} (item : Reader α) (written : List Char) : Prop :=
  ∀ rest, Ends rest → (item (written ++ rest)).toOption = (outcome? item written).map (·, rest)

/-- A reader takes what was written for a thing, whatever follows. -/
def ReadsBack {α : Type} (item : Reader α) (write : α → List Char) (x : α) : Prop :=
  ∀ rest, Ends rest → item (write x ++ rest) = .ok (x, rest)

/-- What is left of a reading without its error is what was read. -/
lemma eq_ok_of_toOption {ε α : Type} {r : Except ε α} {x : α} (h : r.toOption = some x) :
    r = .ok x := by
  cases r with
  | ok y =>
    cases h
    rfl
  | error e => cases h

/-- What does not depend on what follows a text is made of the text as a whole. -/
lemma settles_of_forall {α : Type} {item : Reader α} {written : List Char} {r : Option α}
    (h : ∀ rest, Ends rest → (item (written ++ rest)).toOption = r.map (·, rest)) :
    outcome? item written = r ∧ Settles item written := by
  have houtcome : outcome? item written = r := by
    have hwhole := h [] ends_nil
    rw [List.append_nil] at hwhole
    rw [outcome?, hwhole, Option.map_map]
    cases r <;> rfl
  refine ⟨houtcome, fun rest hrest => ?_⟩
  rw [houtcome]
  exact h rest hrest

/-- A thing that is read back is made of what was written for it. -/
lemma ReadsBack.settles {α : Type} {item : Reader α} {write : α → List Char} {x : α}
    (h : ReadsBack item write x) :
    outcome? item (write x) = some x ∧ Settles item (write x) := by
  apply settles_of_forall
  intro rest hrest
  rw [h rest hrest]
  rfl

/-- A text that is settled is accepted, with something made of it, or refused. -/
lemma Settles.cases {α : Type} {item : Reader α} {written rest : List Char}
    (h : Settles item written) (hrest : Ends rest) :
    (∃ x, outcome? item written = some x ∧ item (written ++ rest) = .ok (x, rest)) ∨
      (outcome? item written = none ∧ ∃ e, item (written ++ rest) = .error e) := by
  have hread := h rest hrest
  cases hitem : item (written ++ rest) with
  | ok r =>
    rw [hitem] at hread
    obtain ⟨x, hx, hr⟩ := Option.map_eq_some_iff.1 hread.symm
    exact .inl ⟨x, hx, by rw [← hr]⟩
  | error e =>
    rw [hitem] at hread
    exact .inr ⟨Option.map_eq_none_iff.1 hread.symm, e, rfl⟩

/-- Entries with a comma in front of each. -/
def commaLed (entries : List (List Char)) : List Char :=
  entries.flatMap (',' :: ·)

/-- Entries are separated by the commas in front of all but the first. -/
lemma commaSeparated_cons (entry : List Char) (entries : List (List Char)) :
    commaSeparated (entry :: entries) = entry ++ commaLed entries := by
  induction entries generalizing entry with
  | nil => simp [commaSeparated, commaLed]
  | cons next entries ih =>
    have hstep : commaSeparated (entry :: next :: entries) =
        entry ++ ',' :: commaSeparated (next :: entries) := by
      simp [commaSeparated, List.intersperse]
    rw [hstep, ih next]
    simp [commaLed]

/-- Entries that are led by commas end what stands in front of them. -/
lemma ends_commaLed (entries : List (List Char)) {rest : List Char} (h : Ends rest) :
    Ends (commaLed entries ++ rest) := by
  cases entries with
  | nil => exact h
  | cons entry entries => exact ends_comma _

/-- There are not more commas than characters. -/
lemma length_le_length_commaLed (entries : List (List Char)) :
    entries.length ≤ (commaLed entries).length := by
  induction entries with
  | nil => exact Nat.le_refl 0
  | cons entry entries ih =>
    simp only [commaLed, List.flatMap_cons, List.cons_append, List.length_cons,
      List.length_append] at ih ⊢
    omega

variable {α : Type}

/-- The first item of an array begins behind the blanks. -/
lemma nextItem_first {blank written : List Char} (hblank : Blank blank) (h : Opens written)
    (rest : List Char) :
    nextItem true (blank ++ (written ++ rest)) = .ok (some (written ++ rest)) := by
  obtain ⟨c, s, rfl, hspace, -, hbracket⟩ := h
  simp only [List.cons_append]
  unfold nextItem
  rw [skipSpace_append_cons hblank hspace]
  split
  · next heq => cases heq
  · next heq => exact absurd (List.cons.inj heq).1 hbracket
  · next heq =>
    rw [if_pos rfl]
    cases heq
    rfl
  · rfl

/-- Any other item of an array begins behind a comma. -/
lemma nextItem_comma {after before written : List Char} (hafter : Blank after)
    (hbefore : Blank before) (h : Opens written) (rest : List Char) :
    nextItem false (after ++ ',' :: (before ++ (written ++ rest))) =
      .ok (some (written ++ rest)) := by
  obtain ⟨c, s, rfl, hspace, -, hbracket⟩ := h
  unfold nextItem
  rw [skipSpace_append_cons hafter (by decide)]
  simp only [List.cons_append, Bool.false_eq_true, if_false]
  rw [skipSpace_append_cons hbefore hspace]
  split
  · next heq => cases heq
  · next heq => exact absurd (List.cons.inj heq).1 hbracket
  · rfl

/-- Behind the last item of an array stands its bracket. -/
lemma nextItem_bracket {blank : List Char} (h : Blank blank) (first : Bool) (rest : List Char) :
    nextItem first (blank ++ ']' :: rest) = .ok none := by
  unfold nextItem
  rw [skipSpace_append_cons h (by decide)]
  rfl

/-- An array ends with its bracket. -/
lemma endArray_bracket {blank : List Char} (h : Blank blank) (rest : List Char) :
    endArray (blank ++ ']' :: rest) = .ok rest := by
  unfold endArray
  rw [skipSpace_append_cons h (by decide)]
  rfl

/-- The items of an array behind the first are read exactly if each of them is.

**Proof sketch.** Induction on the items. A turn passes over the comma and takes one item, or
refuses it; the last turn finds the bracket. -/
lemma toOption_readItemsFrom {item : Reader α} {entries : List Entry}
    (hspaced : ∀ e ∈ entries, e.Spaced) (hopens : ∀ e ∈ entries, Opens e.core)
    (hsettles : ∀ e ∈ entries, Settles item e.core) {blank : List Char} (hblank : Blank blank)
    {turns : Nat} (hturns : entries.length < turns) {acc : List α} (hacc : acc ≠ [])
    (rest : List Char) :
    (readItemsFrom item turns acc
        (blank ++ (commaLed (entries.map Entry.text) ++ ']' :: rest))).toOption =
      (entries.mapM fun e => outcome? item e.core).map fun xs => (acc.reverse ++ xs, rest) := by
  induction entries generalizing turns acc blank with
  | nil =>
    obtain ⟨turns, rfl⟩ : ∃ k, turns = k + 1 := ⟨turns - 1, by simp at hturns; omega⟩
    simp only [List.map_nil, commaLed, List.flatMap_nil, List.nil_append, readItemsFrom,
      nextItem_bracket hblank, endArray_bracket hblank, List.mapM_nil]
    show some (acc.reverse, rest) = some (acc.reverse ++ [], rest)
    rw [List.append_nil]
  | cons e entries ih =>
    obtain ⟨turns, rfl⟩ : ∃ k, turns = k + 1 := ⟨turns - 1, by simp at hturns; omega⟩
    obtain ⟨hbefore, hafter⟩ := hspaced e (by simp)
    set left := e.after ++ (commaLed (entries.map Entry.text) ++ ']' :: rest) with hleft
    have hsplit : commaLed ((e :: entries).map Entry.text) ++ ']' :: rest =
        ',' :: (e.before ++ (e.core ++ left)) := by
      simp [commaLed, Entry.text, Entry.upTo, hleft]
    have hends : Ends left := ends_blank hafter (ends_commaLed _ (ends_bracket rest))
    rw [hsplit, readItemsFrom, List.isEmpty_eq_false_iff.2 hacc,
      nextItem_comma hblank hbefore (hopens e (by simp))]
    rcases (hsettles e (by simp)).cases hends with ⟨x, hx, hread⟩ | ⟨hnone, err, hread⟩
    · simp only [hread, List.mapM_cons, hx]
      rw [hleft, ih (fun y hy => hspaced y (by simp [hy])) (fun y hy => hopens y (by simp [hy]))
        (fun y hy => hsettles y (by simp [hy])) hafter (by simp at hturns; omega) (by simp)]
      cases entries.mapM fun e => outcome? item e.core with
      | none => rfl
      | some xs => simp
    · simp only [hread, List.mapM_cons, hnone]
      rfl

/-- **An array is read exactly if each of its items is.** It does not matter what blanks stand
around them.

**Proof sketch.** The first item stands behind blanks (`nextItem_first`), and all others behind
commas (`toOption_readItemsFrom`). Each item settles what is made of it, so the reader is behind it
when it has been read; there are fewer items than the text has characters, so the turns suffice. -/
lemma toOption_readItems_spaced {item : Reader α} {blank : List Char} (hblank : Blank blank)
    {entries : List Entry} (hspaced : ∀ e ∈ entries, e.Spaced)
    (hopens : ∀ e ∈ entries, Opens e.core) (hsettles : ∀ e ∈ entries, Settles item e.core)
    (rest : List Char) :
    (readItems item
        (blank ++ (commaSeparated (entries.map Entry.text) ++ ']' :: rest))).toOption =
      (entries.mapM fun e => outcome? item e.core).map (·, rest) := by
  cases entries with
  | nil =>
    show (readItemsFrom item _ [] (blank ++ ']' :: rest)).toOption = some ([], rest)
    simp only [readItemsFrom, nextItem_bracket hblank, endArray_bracket hblank]
    rfl
  | cons e entries =>
    obtain ⟨hbefore, hafter⟩ := hspaced e (by simp)
    set left := e.after ++ (commaLed (entries.map Entry.text) ++ ']' :: rest) with hleft
    have hsplit : blank ++ (commaSeparated ((e :: entries).map Entry.text) ++ ']' :: rest) =
        blank ++ e.before ++ (e.core ++ left) := by
      rw [List.map_cons, commaSeparated_cons]
      simp [Entry.text, Entry.upTo, hleft]
    have hends : Ends left := ends_blank hafter (ends_commaLed _ (ends_bracket rest))
    have hlen := length_le_length_commaLed (entries.map Entry.text)
    rw [readItems, hsplit, readItemsFrom, List.isEmpty_nil,
      nextItem_first (hblank.append hbefore) (hopens e (by simp))]
    rcases (hsettles e (by simp)).cases hends with ⟨x, hx, hread⟩ | ⟨hnone, err, hread⟩
    · simp only [hread, List.mapM_cons, hx]
      rw [hleft, toOption_readItemsFrom (fun y hy => hspaced y (by simp [hy]))
        (fun y hy => hopens y (by simp [hy])) (fun y hy => hsettles y (by simp [hy])) hafter
        (by simp at hlen ⊢; omega) (by simp)]
      cases entries.mapM fun e => outcome? item e.core with
      | none => rfl
      | some xs => simp
    · simp only [hread, List.mapM_cons, hnone]
      rfl

/-- A written array is read exactly if each of its items is.

**Proof sketch.** A written array is one whose items have no blanks around them. -/
lemma toOption_readItems {item : Reader α} {entries : List (List Char)}
    (hopens : ∀ w ∈ entries, Opens w) (hsettles : ∀ w ∈ entries, Settles item w)
    (rest : List Char) :
    (readItems item (commaSeparated entries ++ ']' :: rest)).toOption =
      (entries.mapM (outcome? item)).map (·, rest) := by
  have hbare : ∀ e ∈ entries.map Entry.bare, Settles item e.core :=
    List.forall_mem_map.2 hsettles
  have hread := toOption_readItems_spaced blank_nil
    (List.forall_mem_map.2 fun w _ => Entry.spaced_bare w) (List.forall_mem_map.2 hopens) hbare rest
  have htexts : (entries.map Entry.bare).map Entry.text = entries := by
    rw [List.map_map]
    exact List.map_id'' Entry.text_bare entries
  rw [List.mapM_map, htexts] at hread
  exact hread

/-- If each entry is made of itself, so is the list. -/
lemma mapM_eq_some {f : α → Option α} {xs : List α} (h : ∀ x ∈ xs, f x = some x) :
    xs.mapM f = some xs := by
  induction xs with
  | nil => rfl
  | cons x xs ih =>
    rw [List.mapM_cons, h x (by simp), ih fun y hy => h y (by simp [hy])]
    rfl

/-- The written form of a member. -/
def memberText (write : α → List Char) (m : String × α) : List Char :=
  quote m.1.toList ++ ':' :: write m.2

/-- A written name is read back, and what follows it stays. -/
lemma readText_name (name : String) (rest : List Char) :
    readText (name.toList.flatMap escape ++ ['"'] ++ rest) = .ok (name.toList, rest) := by
  rw [List.append_assoc]
  exact readText_quote name.toList rest

/-- What a reader makes of a member. -/
def Member.outcome? (value : Reader α) (m : Member) : Option (String × α) :=
  (Json.outcome? readText m.label).bind fun name =>
    (Json.outcome? value m.value.upTo).map (String.ofList name, ·)

/-- The first member of an object begins behind the blanks. -/
lemma nextMember_first {blank : List Char} (h : Blank blank) (rest : List Char) :
    nextMember true (blank ++ '"' :: rest) = .ok (some rest) := by
  unfold nextMember
  rw [skipSpace_append_cons h (by decide)]
  rfl

/-- Any other member of an object begins behind a comma. -/
lemma nextMember_comma {after before : List Char} (hafter : Blank after) (hbefore : Blank before)
    (rest : List Char) :
    nextMember false (after ++ ',' :: (before ++ '"' :: rest)) = .ok (some rest) := by
  unfold nextMember
  rw [skipSpace_append_cons hafter (by decide)]
  simp only [Bool.false_eq_true, if_false]
  rw [skipSpace_append_cons hbefore (by decide)]
  rfl

/-- Behind the last member of an object stands its brace. -/
lemma nextMember_brace {blank : List Char} (h : Blank blank) (first : Bool) (rest : List Char) :
    nextMember first (blank ++ '}' :: rest) = .ok none := by
  unfold nextMember
  rw [skipSpace_append_cons h (by decide)]
  rfl

/-- An object ends with its brace. -/
lemma endObject_brace {blank : List Char} (h : Blank blank) (rest : List Char) :
    endObject (blank ++ '}' :: rest) = .ok rest := by
  unfold endObject
  rw [skipSpace_append_cons h (by decide)]
  rfl

/-- Between a name and its value stands a colon. -/
lemma expectColon_colon {blank : List Char} (h : Blank blank) (rest : List Char) :
    expectColon (blank ++ ':' :: rest) = .ok rest := by
  unfold expectColon
  rw [skipSpace_append_cons h (by decide)]
  rfl

/-- A member is read, name and value, or one of them is refused.

**Proof sketch.** The name settles what is made of it, and so does the value; between them there is
a colon. -/
lemma Member.outcome?_cases {value : Reader α} {m : Member} (hspaced : m.Spaced)
    (hlabel : Settles readText m.label) (hvalue : Settles value m.value.upTo) {rest : List Char}
    (hrest : Ends rest) :
    (∃ name s x, readText (m.opened ++ rest) = .ok (name, s) ∧
        expectColon s = .ok (m.value.upTo ++ (m.value.after ++ rest)) ∧
        value (m.value.upTo ++ (m.value.after ++ rest)) = .ok (x, m.value.after ++ rest) ∧
        m.outcome? value = some (String.ofList name, x)) ∨
      (m.outcome? value = none ∧ ((∃ err, readText (m.opened ++ rest) = .error err) ∨
        ∃ name s err, readText (m.opened ++ rest) = .ok (name, s) ∧
          expectColon s = .ok (m.value.upTo ++ (m.value.after ++ rest)) ∧
          value (m.value.upTo ++ (m.value.after ++ rest)) = .error err)) := by
  have hsplit : m.opened ++ rest =
      m.label ++ (m.between ++ ':' :: (m.value.upTo ++ (m.value.after ++ rest))) := by
    simp [Member.opened, Entry.text]
  have hcolon : Ends (m.between ++ ':' :: (m.value.upTo ++ (m.value.after ++ rest))) :=
    ends_blank hspaced.between (ends_cons (by decide) _)
  have hbehind : Ends (m.value.after ++ rest) := ends_blank hspaced.value.after hrest
  have hexpect := expectColon_colon hspaced.between (m.value.upTo ++ (m.value.after ++ rest))
  rw [hsplit]
  rcases hlabel.cases hcolon with ⟨name, hname, hread⟩ | ⟨hname, err, hread⟩
  · rcases hvalue.cases hbehind with ⟨x, hx, hread'⟩ | ⟨hx, err, hread'⟩
    · exact .inl ⟨name, _, x, hread, hexpect, hread', by simp [Member.outcome?, hname, hx]⟩
    · exact .inr ⟨by simp [Member.outcome?, hx], .inr ⟨name, _, err, hread, hexpect, hread'⟩⟩
  · exact .inr ⟨by simp [Member.outcome?, hname], .inl ⟨err, hread⟩⟩

/-- The members of an object behind the first are read exactly if each of them is.

**Proof sketch.** Induction on the members. A turn passes over the comma and takes the name, the
colon and the value of one member, or refuses it; the last turn finds the brace. -/
lemma toOption_readMembersFrom {value : Reader α} {members : List Member}
    (hspaced : ∀ m ∈ members, m.Spaced) (hlabel : ∀ m ∈ members, Settles readText m.label)
    (hvalue : ∀ m ∈ members, Settles value m.value.upTo) {blank : List Char}
    (hblank : Blank blank) {turns : Nat} (hturns : members.length < turns)
    {acc : List (String × α)} (hacc : acc ≠ []) (rest : List Char) :
    (readMembersFrom value turns acc
        (blank ++ (commaLed (members.map Member.text) ++ '}' :: rest))).toOption =
      (members.mapM (Member.outcome? value)).map fun ms => (acc.reverse ++ ms, rest) := by
  induction members generalizing turns acc blank with
  | nil =>
    obtain ⟨turns, rfl⟩ : ∃ k, turns = k + 1 := ⟨turns - 1, by simp at hturns; omega⟩
    simp only [List.map_nil, commaLed, List.flatMap_nil, List.nil_append, readMembersFrom,
      nextMember_brace hblank, endObject_brace hblank, List.mapM_nil]
    show some (acc.reverse, rest) = some (acc.reverse ++ [], rest)
    rw [List.append_nil]
  | cons m members ih =>
    obtain ⟨turns, rfl⟩ : ∃ k, turns = k + 1 := ⟨turns - 1, by simp at hturns; omega⟩
    have hm := hspaced m (by simp)
    set left := commaLed (members.map Member.text) ++ '}' :: rest with hleft
    have hsplit : commaLed ((m :: members).map Member.text) ++ '}' :: rest =
        ',' :: (m.before ++ '"' :: (m.opened ++ left)) := by
      simp [commaLed, Member.text, hleft]
    have hends : Ends left := ends_commaLed _ (ends_brace rest)
    rw [hsplit, readMembersFrom, List.isEmpty_eq_false_iff.2 hacc,
      nextMember_comma hblank hm.before]
    -- The member is made, or its name is refused, or its value is.
    rcases Member.outcome?_cases hm (hlabel m (by simp)) (hvalue m (by simp)) hends with
      ⟨name, s, x, htext, hcolon, hread, hmade⟩ |
      ⟨hnone, ⟨err, htext⟩ | ⟨name, s, err, htext, hcolon, hread⟩⟩
    · simp only [htext, hcolon, hread, List.mapM_cons, hmade]
      rw [hleft, ih (fun y hy => hspaced y (by simp [hy])) (fun y hy => hlabel y (by simp [hy]))
        (fun y hy => hvalue y (by simp [hy])) hm.value.after (by simp at hturns; omega) (by simp)]
      cases members.mapM (Member.outcome? value) with
      | none => rfl
      | some ms => simp
    · simp only [htext, List.mapM_cons, hnone]
      rfl
    · simp only [htext, hcolon, hread, List.mapM_cons, hnone]
      rfl

/-- **An object is read exactly if each of its members is.** It does not matter what blanks stand
around them.

**Proof sketch.** The first member stands behind blanks (`nextMember_first`), all others behind
commas (`toOption_readMembersFrom`), and each is read, name and value, or refused
(`Member.outcome?_cases`). -/
lemma toOption_readMembers_spaced {value : Reader α} {blank : List Char} (hblank : Blank blank)
    {members : List Member} (hspaced : ∀ m ∈ members, m.Spaced)
    (hlabel : ∀ m ∈ members, Settles readText m.label)
    (hvalue : ∀ m ∈ members, Settles value m.value.upTo) (rest : List Char) :
    (readMembers value
        (blank ++ (commaSeparated (members.map Member.text) ++ '}' :: rest))).toOption =
      (members.mapM (Member.outcome? value)).map (·, rest) := by
  cases members with
  | nil =>
    show (readMembersFrom value _ [] (blank ++ '}' :: rest)).toOption = some ([], rest)
    simp only [readMembersFrom, nextMember_brace hblank, endObject_brace hblank]
    rfl
  | cons m members =>
    have hm := hspaced m (by simp)
    set left := commaLed (members.map Member.text) ++ '}' :: rest with hleft
    have hsplit : blank ++ (commaSeparated ((m :: members).map Member.text) ++ '}' :: rest) =
        blank ++ m.before ++ '"' :: (m.opened ++ left) := by
      rw [List.map_cons, commaSeparated_cons]
      simp [Member.text, hleft]
    have hends : Ends left := ends_commaLed _ (ends_brace rest)
    have hlen := length_le_length_commaLed (members.map Member.text)
    rw [readMembers, hsplit, readMembersFrom, List.isEmpty_nil,
      nextMember_first (hblank.append hm.before)]
    rcases Member.outcome?_cases hm (hlabel m (by simp)) (hvalue m (by simp)) hends with
      ⟨name, s, x, htext, hcolon, hread, hmade⟩ |
      ⟨hnone, ⟨err, htext⟩ | ⟨name, s, err, htext, hcolon, hread⟩⟩
    · simp only [htext, hcolon, hread, List.mapM_cons, hmade]
      rw [hleft, toOption_readMembersFrom (fun y hy => hspaced y (by simp [hy]))
        (fun y hy => hlabel y (by simp [hy])) (fun y hy => hvalue y (by simp [hy]))
        hm.value.after (by simp at hlen ⊢; omega) (by simp)]
      cases members.mapM (Member.outcome? value) with
      | none => rfl
      | some ms => simp
    · simp only [htext, List.mapM_cons, hnone]
      rfl
    · simp only [htext, hcolon, hread, List.mapM_cons, hnone]
      rfl

/-- What a reader makes of a member whose value is a text to be read. -/
def memberOutcome? (value : Reader α) (m : String × List Char) : Option (String × α) :=
  (outcome? value m.2).map (m.1, ·)

/-- A member without blanks, under a name as it is written. -/
def Member.bare (m : String × List Char) : Member :=
  ⟨[], m.1.toList.flatMap escape, [], .bare m.2⟩

/-- The name of a member that was written is read back. -/
lemma Member.settles_label_bare (m : String × List Char) :
    Json.outcome? readText (Member.bare m).label = some m.1.toList ∧
      Settles readText (Member.bare m).label :=
  settles_of_forall fun rest _ => by
    show (readText (m.1.toList.flatMap escape ++ ['"'] ++ rest)).toOption = _
    rw [readText_name]
    rfl

/-- A written object is read exactly if the value of each of its members is.

**Proof sketch.** A written object is one without blanks, whose names are read back from their
written form. -/
lemma toOption_readMembers {value : Reader α} {members : List (String × List Char)}
    (hsettles : ∀ m ∈ members, Settles value m.2) (rest : List Char) :
    (readMembers value (commaSeparated (members.map (memberText id)) ++ '}' :: rest)).toOption =
      (members.mapM (memberOutcome? value)).map (·, rest) := by
  have hspaced : ∀ m, (Member.bare m).Spaced := fun m =>
    ⟨blank_nil, blank_nil, Entry.spaced_bare m.2⟩
  have hbare : ∀ m ∈ members.map Member.bare, Settles value m.value.upTo :=
    List.forall_mem_map.2 hsettles
  have hread := toOption_readMembers_spaced blank_nil
    (List.forall_mem_map.2 fun m _ => hspaced m)
    (List.forall_mem_map.2 fun m _ => (Member.settles_label_bare m).2) hbare rest
  have htexts : (members.map Member.bare).map Member.text = members.map (memberText id) := by
    rw [List.map_map]
    refine List.map_congr_left fun m _ => ?_
    simp [Member.bare, Member.text, Member.opened, Member.label, memberText, quote, Entry.text,
      Entry.upTo, Entry.bare]
  have hmade : Member.outcome? value ∘ Member.bare = memberOutcome? value := by
    funext m
    simp only [Function.comp_apply, Member.outcome?, (Member.settles_label_bare m).1,
      Option.bind_some, String.ofList_toList]
    rfl
  rw [List.mapM_map, htexts, hmade] at hread
  exact hread

end Messenger.Json
