import Messenger.Proofs.Json.Grammar

set_option relaxedAutoImplicit false
set_option autoImplicit false

/-!
# Well-formed values are settled

What a reader makes of a well-formed value, if it makes anything of it, does not depend on what
follows the value. So an array or an object is read entry by entry, in whatever way it is written.

## Main results

* `Messenger.Json.settles_readText`: what is made of a text between quotes is settled.
* `Messenger.Json.WellFormed.settles_readValue`: what is made of a value is.
* `Messenger.Json.WellFormed.settles_readString`: so is what is made of it where a text is asked
  for.
-/

namespace Messenger.Json

/-! ### Texts -/

/-- Reads what must follow the first of two surrogates: an escape of the second one. -/
def readLow (acc : List Char) (high : Nat) : List Char → Except Error (List Char × List Char)
  | '\\' :: 'u' :: a :: b :: c :: d :: rest =>
    match unit? a b c d with
    | none => .error .invalidEscape
    | some low =>
      if 0xDC00 ≤ low ∧ low ≤ 0xDFFF then readTextFrom (pairedChar high low :: acc) rest
      else .error .loneSurrogate
  | '\\' :: 'u' :: short => .error (digitsError short)
  | [] | ['\\'] => .error .eofInText
  | _ => .error .unfinishedSurrogatePair

/-- A long escape is one half of a pair, which is refused or asks for the other half, or a character
of its own. -/
lemma readTextFrom_unit {a b c d : Char} {n : Nat} (h : unit? a b c d = some n)
    (acc rest : List Char) :
    readTextFrom acc ('\\' :: 'u' :: a :: b :: c :: d :: rest) =
      if 0xDC00 ≤ n ∧ n ≤ 0xDFFF then .error .loneSurrogate
      else if n < 0xD800 ∨ 0xDFFF < n then readTextFrom (Char.ofNat n :: acc) rest
      else readLow acc n rest := by
  rw [readTextFrom.eq_def]
  simp only [h]
  rfl

/-- What is made of the characters between quotes does not depend on what follows the closing quote.
Neither does what is made of them behind the first of two surrogates.

**Proof sketch.** Induction on the characters and escapes. An escape of a surrogate is read together
with the next one, which is why both parts are shown at once. -/
lemma readTextFrom_quotable {w : List Char} (h : Quotable w) :
    (∀ acc, ∃ r : Option (List Char), ∀ rest,
      (readTextFrom acc (w ++ '"' :: rest)).toOption = r.map (·, rest)) ∧
    ∀ acc high, ∃ r : Option (List Char), ∀ rest,
      (readLow acc high (w ++ '"' :: rest)).toOption = r.map (·, rest) := by
  induction h with
  | nil => exact ⟨fun acc => ⟨some acc.reverse, fun _ => rfl⟩, fun _ _ => ⟨none, fun _ => rfl⟩⟩
  | @plain c w hquote hslash hcontrol _ ih =>
    constructor
    · intro acc
      obtain ⟨r, hr⟩ := ih.1 (c :: acc)
      refine ⟨r, fun rest => ?_⟩
      rw [List.cons_append, readTextFrom_cons hquote hslash, if_neg hcontrol]
      exact hr rest
    · refine fun acc high => ⟨none, fun rest => ?_⟩
      -- The first half of a pair is refused unless another escape follows.
      have hlow : readLow acc high (c :: (w ++ '"' :: rest)) = .error .unfinishedSurrogatePair := by
        unfold readLow
        split <;> simp_all
      rw [List.cons_append, hlow]
      rfl
  | short hletter _ ih =>
    simp only [shortLetters, List.mem_cons, List.not_mem_nil, or_false] at hletter
    refine ⟨fun acc => ?_, fun acc high => ⟨none, fun rest => ?_⟩⟩
    · rcases hletter with rfl | rfl | rfl | rfl | rfl | rfl | rfl | rfl <;> exact ih.1 _
    · rcases hletter with rfl | rfl | rfl | rfl | rfl | rfl | rfl | rfl <;> rfl
  | @long a b c d w ha hb hc hd _ ih =>
    obtain ⟨n, hn⟩ := exists_unit? ha hb hc hd
    constructor
    · intro acc
      simp only [List.cons_append, readTextFrom_unit hn]
      split
      · exact ⟨none, fun _ => rfl⟩
      · split
        · exact ih.1 _
        · exact ih.2 _ _
    · intro acc high
      simp only [List.cons_append, readLow, hn]
      split
      · exact ih.1 _
      · exact ⟨none, fun _ => rfl⟩

/-- **A text and what follows it are apart.** What is made of a text does not depend on what follows
its closing quote. -/
lemma settles_readText {w : List Char} (h : Quotable w) : Settles readText (w ++ ['"']) := by
  obtain ⟨r, hr⟩ := (readTextFrom_quotable h).1 []
  refine (settles_of_forall (r := r) fun rest _ => ?_).2
  rw [List.append_assoc]
  exact hr rest

/-! ### Values -/

/-- What is made of a plain value does not depend on what follows it. -/
lemma Plain.settles {w : List Char} (h : Plain w) : Settles readScalar w := by
  cases h with
  | null => exact (Value.Scalar.settles (v := .null) trivial)
  | yes => exact (Value.Scalar.settles (v := .bool true) trivial)
  | no => exact (Value.Scalar.settles (v := .bool false) trivial)
  | number h => exact (settles_readScalar_numeric h.numeric).1
  | negative h => exact (settles_readScalar_numeric h.numeric).2
  | text h =>
    exact ((settles_readText h).transfer (fun s => Value.text (String.ofList s)) fun _ _ => rfl).2

/-- A plain value is read as one, however deep a value may be. -/
lemma Plain.readValue_append {w : List Char} (h : Plain w) (depth : Nat) (rest : List Char) :
    readValue depth (w ++ rest) = readScalar (w ++ rest) := by
  obtain ⟨c, s, rfl, hspace, -, -, harray, hobject⟩ := h.opens
  rw [List.cons_append]
  unfold readValue
  rw [skipSpace_cons hspace]
  split
  · next heq => exact absurd (List.cons.inj heq).1 harray
  · next heq => exact absurd (List.cons.inj heq).1 hobject
  · rfl

/-- Blanks in front of a value do not matter. -/
lemma readValue_blank {blank : List Char} (h : Blank blank) (depth : Nat) (s : List Char) :
    readValue depth (blank ++ s) = readValue depth s := by
  rw [readValue.eq_def, readValue.eq_def, skipSpace_append h]

/-- Blanks in front of a text do not matter. -/
lemma readString_blank {blank : List Char} (h : Blank blank) (expected : String) (s : List Char) :
    readString expected (blank ++ s) = readString expected s := by
  simp only [readString, mismatch, skipSpace_append h]

/-- For a reader to which blanks in front do not matter, what is made of an entry is made of what
stands in it. -/
lemma Settles.upTo {α : Type} {item : Reader α} {e : Entry} (h : Settles item e.core)
    (hblank : ∀ s, item (e.before ++ s) = item s) :
    outcome? item e.upTo = outcome? item e.core ∧ Settles item e.upTo :=
  h.congr fun rest _ => by rw [Entry.upTo, List.append_assoc, hblank]

/-- **A well-formed value and what follows it are apart.** What is made of a value does not depend
on what follows it, in whatever way it is written.

**Proof sketch.** Induction on the grammar. An array and an object are read entry by entry, one
level less deep, or refused where neither is allowed. -/
theorem WellFormed.settles_readValue {w : List Char} (h : WellFormed w) (depth : Nat) :
    Settles (readValue depth) w := by
  induction h generalizing depth with
  | plain h => exact (h.settles.congr fun rest _ => h.readValue_append depth rest).2
  | @array blank items hblank hspaced hcore ih =>
    cases depth with
    | zero => exact (settles_of_forall (r := none) fun _ _ => rfl).2
    | succ k =>
      refine (settles_of_forall
        (r := (items.mapM fun e => outcome? (readValue k) e.core).map .array) fun rest _ => ?_).2
      have hread : readValue (k + 1) (arrayText blank items ++ rest) =
          (readItems (readValue k) (blank ++ (Value.commaSeparated (items.map Entry.text) ++
            ']' :: rest))).map fun r => (.array r.1, r.2) := by
        rw [arrayText, List.cons_append, List.append_assoc, List.append_assoc]
        rfl
      rw [hread, toOption_map, toOption_readItems_spaced hblank hspaced
        (fun e he => (hcore e he).opens) (fun e he => ih e he k), Option.map_map, Option.map_map]
      rfl
  | @object blank members hblank hspaced hname hcore ih =>
    cases depth with
    | zero => exact (settles_of_forall (r := none) fun _ _ => rfl).2
    | succ k =>
      refine (settles_of_forall
        (r := (members.mapM (Member.outcome? (readValue k))).map .ofMembers) fun rest _ => ?_).2
      have hread : readValue (k + 1) (objectText blank members ++ rest) =
          (readMembers (readValue k) (blank ++ (Value.commaSeparated (members.map Member.text) ++
            '}' :: rest))).map fun r => (.ofMembers r.1, r.2) := by
        rw [objectText, List.cons_append, List.append_assoc, List.append_assoc]
        rfl
      have hvalue : ∀ m ∈ members, Settles (readValue k) m.value.upTo := fun m hm =>
        ((ih m hm k).upTo (readValue_blank (hspaced m hm).value.before k)).2
      rw [hread, toOption_map, toOption_readMembers_spaced hblank hspaced
        (fun m hm => settles_readText (hname m hm)) hvalue, Option.map_map, Option.map_map]
      rfl

/-- A value that does not begin with a quote is no text. -/
lemma readString_eq_error {c : Char} (hspace : isSpace c = false) (hquote : c ≠ '"')
    (expected : String) (s : List Char) : ∃ e, readString expected (c :: s) = .error e := by
  unfold readString
  rw [skipSpace_cons hspace]
  split
  · next heq => exact absurd (List.cons.inj heq).1 hquote
  · exact ⟨_, rfl⟩

/-- **The same where a text is asked for.** What is made of a value does not depend on what follows
the value.

**Proof sketch.** A value that is a text is read as one (`settles_readText`). All others are refused
at their first character, which is no quote. -/
theorem WellFormed.settles_readString {w : List Char} (h : WellFormed w) (expected : String) :
    Settles (readString expected) w := by
  have hother : ∀ {w : List Char}, (∃ c s, w = c :: s ∧ isSpace c = false ∧ c ≠ '"') →
      Settles (readString expected) w := by
    rintro w ⟨c, s, rfl, hspace, hquote⟩
    refine (settles_of_forall (r := none) fun rest _ => ?_).2
    obtain ⟨e, he⟩ := readString_eq_error hspace hquote expected (s ++ rest)
    rw [List.cons_append, he]
    rfl
  cases h with
  | plain h =>
    cases h with
    | text h =>
      exact ((settles_readText h).transfer String.ofList fun _ _ => rfl).2
    | number h =>
      obtain ⟨whole, fraction, exponent, ⟨hne, hall⟩, -, -, -, rfl⟩ := h
      obtain ⟨c, ds, rfl⟩ := List.exists_cons_of_ne_nil hne
      have hc : c.isDigit := hall c (by simp)
      refine hother ⟨c, _, rfl, isSpace_of_isDigit hc, ?_⟩
      rintro rfl
      exact absurd hc (by decide)
    | null => exact hother ⟨'n', _, rfl, by decide⟩
    | yes => exact hother ⟨'t', _, rfl, by decide⟩
    | no => exact hother ⟨'f', _, rfl, by decide⟩
    | negative h => exact hother ⟨'-', _, rfl, by decide⟩
  | array => exact hother ⟨'[', _, rfl, by decide⟩
  | object => exact hother ⟨'{', _, rfl, by decide⟩

end Messenger.Json
