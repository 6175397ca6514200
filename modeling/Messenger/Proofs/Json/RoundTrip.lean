import Mathlib.Logic.Basic
import Messenger.Proofs.Json.Numeric

set_option relaxedAutoImplicit false
set_option autoImplicit false

/-!
# Written values are read back

A value is read from its written form, whatever follows it, exactly if the reader may go as deep as
the value is and its doubles can be read. A value without doubles is read back as it was.

## Main definitions

* `Messenger.Json.Value.Legible`: all doubles that occur can be read from their written forms.

## Main results

* `Messenger.Json.settles_write`: what is made of a written value does not depend on what follows
  it.
* `Messenger.Json.isSome_reread?_iff`: which written values are read.
* `Messenger.Json.Value.ofMembers_of_ascending`: members in order make the object that holds them.
* `Messenger.Json.readValue_write`: a written value without doubles is read back.
-/

namespace Messenger.Json

open Value (commaSeparated)

/-! ### Scalars -/

/-- A digit is not blank. -/
lemma isSpace_of_isDigit {c : Char} (h : c.isDigit) : isSpace c = false := by
  cases hspace : isSpace c with
  | false => rfl
  | true =>
    simp only [isSpace, Bool.or_eq_true, decide_eq_true_eq] at hspace
    rcases hspace with ((rfl | rfl) | rfl) | rfl <;> exact absurd h (by decide)

/-- A text that begins with a digit is a number. -/
lemma readScalar_cons_digit {c : Char} (h : c.isDigit) (rest : List Char) :
    readScalar (c :: rest) = readNumber false (c :: rest) := by
  unfold readScalar
  split
  all_goals try (next heq => cases heq; exact absurd h (by decide))
  · next heq => cases heq
  · next heq =>
    cases heq
    rw [if_pos h]

/-- A written integer is read back.

**Proof sketch.** By the sign. Both the number and, behind a minus sign, its absolute value fit 64
bits, so `readNumber_decimal` applies. -/
lemma readScalar_signedDecimal {n : Int} (hn : Value.IntInRange n) {rest : List Char}
    (hr : Ends rest) : readScalar (Text.signedDecimal n ++ rest) = .ok (.int n, rest) := by
  obtain ⟨hlow, hhigh⟩ := hn
  cases n with
  | ofNat n =>
    have hfit : n < Text.limit64 := by
      have : (n : Int) < 0x10000000000000000 := hhigh
      unfold Text.limit64
      omega
    have hread := readNumber_decimal hfit hr false
    show readScalar (Text.decimal n ++ rest) = _
    cases hd : Text.decimal n with
    | nil => exact absurd hd (Text.decimal_ne_nil n)
    | cons c ds =>
      rw [hd] at hread
      rw [List.cons_append, readScalar_cons_digit
        (Text.isDigit_of_mem_decimal (n := n) (by simp [hd]))]
      exact hread
  | negSucc n =>
    have hfit : n + 1 ≤ 0x8000000000000000 := by omega
    have hread := readNumber_decimal (n := n + 1) (by unfold Text.limit64; omega) hr true
    show readNumber true (Text.decimal (n + 1) ++ rest) = _
    rw [hread, integer, if_pos rfl, if_neg (by unfold Text.limit64; omega)]
    rfl

/-- A number is read as one. -/
lemma readScalar_numeric {w : List Char} (h : Numeric w) (rest : List Char) :
    readScalar (w ++ rest) = readNumber false (w ++ rest) := by
  obtain ⟨whole, fraction, exponent, ⟨hne, hall⟩, -, -, rfl⟩ := h
  obtain ⟨c, ds, rfl⟩ := List.exists_cons_of_ne_nil hne
  exact readScalar_cons_digit (hall c (by simp)) _

/-- What is made of a number, with a sign or without, does not depend on what follows it. -/
lemma settles_readScalar_numeric {w : List Char} (h : Numeric w) :
    Settles readScalar w ∧ Settles readScalar ('-' :: w) :=
  ⟨((settles_readNumber h false).congr fun rest _ => readScalar_numeric h rest).2,
    ((settles_readNumber h true).congr fun _ _ => rfl).2⟩

/-- An integer is written as a number is, with a sign or without. -/
lemma signedDecimal_cases (n : Int) :
    ∃ w, Numeric w ∧ (Text.signedDecimal n = w ∨ Text.signedDecimal n = '-' :: w) := by
  have hdecimal : ∀ k, Numeric (Text.decimal k) := fun k =>
    ⟨Text.decimal k, [], [], digits_decimal k, .inl rfl, .inl rfl, by simp⟩
  cases n with
  | ofNat n => exact ⟨_, hdecimal n, .inl rfl⟩
  | negSucc n => exact ⟨_, hdecimal (n + 1), .inr rfl⟩

namespace Value

/-- The value is neither an array nor an object. -/
def Scalar : Value → Prop
  | .array _ => False
  | .object _ => False
  | _ => True

/-- A value is a scalar, an array or an object. -/
lemma scalar_or (v : Value) :
    v.Scalar ∨ (∃ items, v = .array items) ∨ ∃ members, v = .object members := by
  cases v with
  | array items => exact .inr (.inl ⟨items, rfl⟩)
  | object members => exact .inr (.inr ⟨members, rfl⟩)
  | _ => exact .inl trivial

/-- A scalar has no depth. -/
lemma Scalar.depth_eq {v : Value} (h : v.Scalar) : v.depth = 0 := by
  cases v with
  | array items => exact h.elim
  | object members => exact h.elim
  | _ => rfl

/-- A number opens a value that is a scalar. -/
lemma opens_numeric {w : List Char} (h : Numeric w) :
    ∃ c s, w = c :: s ∧ isSpace c = false ∧ c ≠ ',' ∧ c ≠ ']' ∧ c ≠ '[' ∧ c ≠ '{' := by
  obtain ⟨whole, fraction, exponent, ⟨hne, hall⟩, -, -, rfl⟩ := h
  obtain ⟨c, ds, rfl⟩ := List.exists_cons_of_ne_nil hne
  have hc : c.isDigit := hall c (by simp)
  refine ⟨c, _, rfl, isSpace_of_isDigit hc, ?_, ?_, ?_, ?_⟩ <;>
    · rintro rfl
      exact absurd hc (by decide)

/-- A scalar is written in characters of which the first opens a value, but neither an array nor an
object.

**Proof sketch.** By the kind of scalar: a letter, a quote, a digit or a minus sign. -/
lemma Scalar.opens {v : Value} (h : v.Scalar) :
    ∃ c s, v.write = c :: s ∧ isSpace c = false ∧ c ≠ ',' ∧ c ≠ ']' ∧ c ≠ '[' ∧ c ≠ '{' := by
  cases v with
  | null => exact ⟨'n', _, rfl, by decide⟩
  | bool b =>
    cases b
    · exact ⟨'f', _, rfl, by decide⟩
    · exact ⟨'t', _, rfl, by decide⟩
  | text s => exact ⟨'"', _, rfl, by decide⟩
  | array items => exact h.elim
  | object members => exact h.elim
  | int n =>
    obtain ⟨w, hw, hn | hn⟩ := signedDecimal_cases n
    · rw [write, hn]
      exact opens_numeric hw
    · rw [write, hn]
      exact ⟨'-', _, rfl, by decide⟩
  | float x =>
    rw [write]
    rcases numberText_cases x with hx | ⟨w, hw, hx | hx⟩
    · rw [hx]
      exact ⟨'n', _, rfl, by decide⟩
    · rw [hx]
      exact opens_numeric hw
    · rw [hx]
      exact ⟨'-', _, rfl, by decide⟩

/-- A scalar that is no double is read back. -/
lemma Scalar.readsBack {v : Value} (h : v.Scalar) (hc : v.Canonical) (hf : v.FloatFree) :
    ReadsBack readScalar write v := by
  intro rest hr
  cases v with
  | null => rfl
  | bool b => cases b <;> rfl
  | text s =>
    have hread := readText_name s rest
    show readScalar ('"' :: (s.toList.flatMap escape ++ ['"'] ++ rest)) = _
    rw [readScalar, hread]
    simp [Except.map]
  | int n => exact readScalar_signedDecimal hc hr
  | float x => exact hf.elim
  | array items => exact h.elim
  | object members => exact h.elim

/-- What is made of a scalar does not depend on what follows it.

**Proof sketch.** Words and texts are read back, so what is made of them is settled. An integer or a
double is written as a number is (`signedDecimal_cases`, `numberText_cases`), or as a word. -/
lemma Scalar.settles {v : Value} (h : v.Scalar) : Settles readScalar v.write := by
  cases v with
  | null => exact (h.readsBack trivial trivial).settles.2
  | bool b => exact (h.readsBack trivial trivial).settles.2
  | text s => exact (h.readsBack trivial trivial).settles.2
  | array items => exact h.elim
  | object members => exact h.elim
  | int n =>
    obtain ⟨w, hw, hn | hn⟩ := signedDecimal_cases n
    · rw [write, hn]
      exact (settles_readScalar_numeric hw).1
    · rw [write, hn]
      exact (settles_readScalar_numeric hw).2
  | float x =>
    rw [write]
    rcases numberText_cases x with hx | ⟨w, hw, hx | hx⟩
    · rw [hx]
      exact (Scalar.readsBack (v := .null) trivial trivial trivial).settles.2
    · rw [hx]
      exact (settles_readScalar_numeric hw).1
    · rw [hx]
      exact (settles_readScalar_numeric hw).2

end Value

/-! ### Arrays and objects -/

namespace Value

/-- The items of an array are written one by one. -/
lemma writeItems_eq_map (items : List Value) : writeItems items = items.map write := by
  induction items with
  | nil => rfl
  | cons v items ih => rw [writeItems, ih, List.map_cons]

/-- The members of an object are written one by one. -/
lemma writeMembers_eq_map (members : List (String × Value)) :
    writeMembers members = members.map (memberText write) := by
  induction members with
  | nil => rfl
  | cons m members ih =>
    rw [writeMembers, ih]
    rfl

/-- What holds of all items of an array. -/
lemma canonicalItems_iff {items : List Value} :
    CanonicalItems items ↔ ∀ v ∈ items, v.Canonical := by
  induction items with
  | nil => simp [CanonicalItems]
  | cons v items ih => simp [CanonicalItems, ih]

/-- What holds of the values of all members of an object. -/
lemma canonicalMembers_iff {members : List (String × Value)} :
    CanonicalMembers members ↔ ∀ m ∈ members, m.2.Canonical := by
  induction members with
  | nil => simp [CanonicalMembers]
  | cons m members ih => simp only [CanonicalMembers, ih, List.forall_mem_cons]

/-- No item of an array holds a double. -/
lemma floatFreeItems_iff {items : List Value} :
    FloatFreeItems items ↔ ∀ v ∈ items, v.FloatFree := by
  induction items with
  | nil => simp [FloatFreeItems]
  | cons v items ih => simp [FloatFreeItems, ih]

/-- No member of an object holds a double. -/
lemma floatFreeMembers_iff {members : List (String × Value)} :
    FloatFreeMembers members ↔ ∀ m ∈ members, m.2.FloatFree := by
  induction members with
  | nil => simp [FloatFreeMembers]
  | cons m members ih => simp only [FloatFreeMembers, ih, List.forall_mem_cons]

/-- The items of an array are not deeper than the deepest of them. -/
lemma depthItems_le_iff {items : List Value} {k : Nat} :
    depthItems items ≤ k ↔ ∀ v ∈ items, v.depth ≤ k := by
  induction items with
  | nil => simp [depthItems]
  | cons v items ih => simp only [depthItems, Nat.max_le, ih, List.forall_mem_cons]

/-- The members of an object are not deeper than the deepest of them. -/
lemma depthMembers_le_iff {members : List (String × Value)} {k : Nat} :
    depthMembers members ≤ k ↔ ∀ m ∈ members, m.2.depth ≤ k := by
  induction members with
  | nil => simp [depthMembers]
  | cons m members ih => simp only [depthMembers, ih, Nat.max_le, List.forall_mem_cons]

/-- A member whose name comes after all others is put at the end. -/
lemma insertMember_of_forall_lt {name : String} {v : Value} {members : List (String × Value)}
    (h : ∀ m ∈ members, m.1 < name) : insertMember name v members = members ++ [(name, v)] := by
  induction members with
  | nil => rfl
  | cons m members ih =>
    obtain ⟨other, w⟩ := m
    have hlt : other < name := h (other, w) (by simp)
    have hnot : ¬ name < other := fun hgt => String.lt_irrefl _ (String.lt_trans hlt hgt)
    have hne : name ≠ other := by
      rintro rfl
      exact String.lt_irrefl _ hlt
    rw [insertMember, if_neg hnot, if_neg hne, ih fun m hm => h m (by simp [hm])]
    rfl

/-- **Members in order make the object that holds them.** If their names ascend they stay as they
are.

**Proof sketch.** Each member in turn comes after all those that are already there. -/
lemma ofMembers_of_ascending {members : List (String × Value)}
    (h : (members.map (·.1)).Pairwise (· < ·)) : ofMembers members = .object members := by
  have hfold : ∀ acc : List (String × Value), ((acc ++ members).map (·.1)).Pairwise (· < ·) →
      members.foldl (fun acc m => insertMember m.1 m.2 acc) acc = acc ++ members := by
    clear h
    induction members with
    | nil => simp
    | cons m members ih =>
      intro acc hacc
      have hlast : ∀ n ∈ acc, n.1 < m.1 := by
        intro n hn
        rw [List.map_append, List.pairwise_append] at hacc
        exact hacc.2.2 n.1 (List.mem_map_of_mem hn) m.1 (by simp)
      rw [List.foldl_cons, insertMember_of_forall_lt hlast, ih (acc ++ [m]) (by simpa using hacc)]
      simp
  rw [ofMembers, hfold [] (by simpa using h), List.nil_append]

/-- A value is written in characters of which the first opens a value. -/
lemma opens_write (v : Value) : Opens v.write := by
  rcases v.scalar_or with h | ⟨items, rfl⟩ | ⟨members, rfl⟩
  · obtain ⟨c, s, hwrite, hspace, hcomma, hbracket, -⟩ := h.opens
    exact ⟨c, s, hwrite, hspace, hcomma, hbracket⟩
  · exact ⟨'[', _, rfl, by decide⟩
  · exact ⟨'{', _, rfl, by decide⟩

end Value

/-! ### Values -/

/-- What is written as neither an array nor an object is read as a scalar. -/
lemma readValue_of_scalar {v : Value} (h : v.Scalar) (depth : Nat) (rest : List Char) :
    readValue depth (v.write ++ rest) = readScalar (v.write ++ rest) := by
  obtain ⟨c, s, hwrite, hspace, -, -, harray, hobject⟩ := h.opens
  rw [hwrite, List.cons_append]
  unfold readValue
  rw [skipSpace_cons hspace]
  split
  · next heq => exact absurd (List.cons.inj heq).1 harray
  · next heq => exact absurd (List.cons.inj heq).1 hobject
  · rfl

/-- An array is read item by item, one level less deep. -/
lemma readValue_array (k : Nat) (items : List Value) (rest : List Char) :
    readValue (k + 1) ((Value.array items).write ++ rest) =
      (readItems (readValue k) (commaSeparated (items.map Value.write) ++ ']' :: rest)).map
        fun r => (.array r.1, r.2) := by
  rw [Value.write, Value.writeItems_eq_map, List.append_assoc, List.cons_append, readValue,
    skipSpace_cons (by decide)]
  rfl

/-- An object is read member by member, one level less deep. -/
lemma readValue_object (k : Nat) (members : List (String × Value)) (rest : List Char) :
    readValue (k + 1) ((Value.object members).write ++ rest) =
      (readMembers (readValue k) (commaSeparated ((members.map fun m => (m.1, m.2.write)).map
        (memberText id)) ++ '}' :: rest)).map fun r => (.ofMembers r.1, r.2) := by
  have htexts : (members.map fun m => (m.1, m.2.write)).map (memberText id) =
      members.map (memberText Value.write) := by
    rw [List.map_map]
    rfl
  rw [htexts, Value.write, Value.writeMembers_eq_map, List.append_assoc, List.cons_append,
    readValue, skipSpace_cons (by decide)]
  rfl

/-- An array or an object is refused where neither is allowed. -/
lemma readValue_zero {v : Value} (h : ¬ v.Scalar) (rest : List Char) :
    readValue 0 (v.write ++ rest) = .error .tooDeep := by
  rcases v.scalar_or with hs | ⟨items, rfl⟩ | ⟨members, rfl⟩
  · exact absurd hs h
  · rw [Value.write, List.append_assoc, List.cons_append, readValue, skipSpace_cons (by decide)]
    rfl
  · rw [Value.write, List.append_assoc, List.cons_append, readValue, skipSpace_cons (by decide)]
    rfl

/-- What is made of a written value, if the reader may go `depth` levels deep. -/
def reread? (depth : Nat) (v : Value) : Option Value :=
  outcome? (readValue depth) v.write

/-- What is made of a written member. -/
def rereadMember? (depth : Nat) (m : String × Value) : Option (String × Value) :=
  (reread? depth m.2).map (m.1, ·)

/-- The same is made of a scalar at any depth. -/
lemma settles_scalar {v : Value} (h : v.Scalar) (depth : Nat) :
    reread? depth v = outcome? readScalar v.write ∧ Settles (readValue depth) v.write :=
  h.settles.congr fun rest _ => readValue_of_scalar h depth rest

/-- Nothing is made of an array or an object where neither is allowed. -/
lemma settles_zero {v : Value} (h : ¬ v.Scalar) :
    reread? 0 v = none ∧ Settles (readValue 0) v.write := by
  apply settles_of_forall
  intro rest _
  rw [readValue_zero h]
  rfl

/-- What is made of an array is made of its items. -/
lemma settles_array {k : Nat} {items : List Value}
    (h : ∀ v ∈ items, Settles (readValue k) v.write) :
    reread? (k + 1) (.array items) = (items.mapM (reread? k)).map .array ∧
      Settles (readValue (k + 1)) (Value.array items).write := by
  apply settles_of_forall
  intro rest _
  have hopens : ∀ w ∈ items.map Value.write, Opens w := by
    simpa using fun v _ => Value.opens_write v
  have hsettles : ∀ w ∈ items.map Value.write, Settles (readValue k) w := by simpa using h
  have hitems := toOption_readItems hopens hsettles rest
  rw [readValue_array, toOption_map, hitems, List.mapM_map, Option.map_map, Option.map_map]
  rfl

/-- What is made of an object is made of the values of its members. -/
lemma settles_object {k : Nat} {members : List (String × Value)}
    (h : ∀ m ∈ members, Settles (readValue k) m.2.write) :
    reread? (k + 1) (.object members) = (members.mapM (rereadMember? k)).map .ofMembers ∧
      Settles (readValue (k + 1)) (Value.object members).write := by
  have hsettles : ∀ m ∈ members.map fun m => (m.1, m.2.write), Settles (readValue k) m.2 := by
    intro _ hmem
    obtain ⟨m, hm, rfl⟩ := List.mem_map.1 hmem
    exact h m hm
  apply settles_of_forall
  intro rest _
  rw [readValue_object, toOption_map, toOption_readMembers hsettles, List.mapM_map, Option.map_map,
    Option.map_map]
  rfl

/-- **A value and what follows it are apart.** What is made of a written value does not depend on
what follows it: a scalar is read as one, an array item by item, and an object member by member.

**Proof sketch.** Induction on the depth that is allowed. Items of an array and members of an object
may go one level less deep, and are settled by the induction hypothesis. -/
theorem settles_write (depth : Nat) (v : Value) : Settles (readValue depth) v.write := by
  induction depth generalizing v with
  | zero =>
    by_cases h : v.Scalar
    · exact (settles_scalar h 0).2
    · exact (settles_zero h).2
  | succ k ih =>
    rcases v.scalar_or with h | ⟨items, rfl⟩ | ⟨members, rfl⟩
    · exact (settles_scalar h _).2
    · exact (settles_array fun v _ => ih v).2
    · exact (settles_object fun m _ => ih m.2).2

/-- What is made of an array, item by item. -/
lemma reread?_array (k : Nat) (items : List Value) :
    reread? (k + 1) (.array items) = (items.mapM (reread? k)).map .array :=
  (settles_array fun v _ => settles_write k v).1

/-- What is made of an object, member by member. -/
lemma reread?_object (k : Nat) (members : List (String × Value)) :
    reread? (k + 1) (.object members) = (members.mapM (rereadMember? k)).map .ofMembers :=
  (settles_object fun m _ => settles_write k m.2).1

/-- Something is made of a list if something is made of each of its entries. -/
lemma isSome_mapM {α β : Type} {f : α → Option β} {xs : List α} :
    (xs.mapM f).isSome ↔ ∀ x ∈ xs, (f x).isSome := by
  induction xs with
  | nil => simp
  | cons x xs ih =>
    rw [List.mapM_cons, List.forall_mem_cons, ← ih]
    cases f x with
    | none => simp
    | some y => cases xs.mapM f <;> simp

mutual

/-- All doubles that occur in the value can be read from their written forms. -/
def Value.Legible : Value → Prop
  | .float x => (outcome? readScalar (numberText x)).isSome
  | .array items => Value.LegibleItems items
  | .object members => Value.LegibleMembers members
  | _ => True

/-- Every item is legible. -/
def Value.LegibleItems : List Value → Prop
  | [] => True
  | v :: rest => Value.Legible v ∧ Value.LegibleItems rest

/-- The value of every member is legible. -/
def Value.LegibleMembers : List (String × Value) → Prop
  | [] => True
  | m :: rest => Value.Legible m.2 ∧ Value.LegibleMembers rest

end

/-- What holds of all items of a legible array. -/
lemma Value.legibleItems_iff {items : List Value} :
    LegibleItems items ↔ ∀ v ∈ items, v.Legible := by
  induction items with
  | nil => simp [LegibleItems]
  | cons v items ih => simp [LegibleItems, ih]

/-- What holds of all members of a legible object. -/
lemma Value.legibleMembers_iff {members : List (String × Value)} :
    LegibleMembers members ↔ ∀ m ∈ members, m.2.Legible := by
  induction members with
  | nil => simp [LegibleMembers]
  | cons m members ih => simp only [LegibleMembers, ih, List.forall_mem_cons]

/-- A scalar is read exactly if it is legible. -/
lemma isSome_scalar_iff {v : Value} (h : v.Scalar) (hc : v.Canonical) :
    (outcome? readScalar v.write).isSome ↔ v.Legible := by
  have hplain : v.FloatFree → (outcome? readScalar v.write).isSome := by
    intro hf
    rw [(h.readsBack hc hf).settles.1]
    rfl
  cases v with
  | float x => exact Iff.rfl
  | array items => exact h.elim
  | object members => exact h.elim
  | _ => exact iff_of_true (hplain trivial) trivial

/-- **Which written values are read.** A written value is read exactly if the reader may go as deep
as the value is and all doubles in it are legible.

**Proof sketch.** Induction on the depth that is allowed. Of an array or an object, something is
made exactly if something is made of each entry. -/
theorem isSome_reread?_iff (depth : Nat) {v : Value} (hc : v.Canonical) :
    (reread? depth v).isSome ↔ v.depth ≤ depth ∧ v.Legible := by
  have hscalar : ∀ (depth : Nat) {v : Value}, v.Scalar → v.Canonical →
      ((reread? depth v).isSome ↔ v.depth ≤ depth ∧ v.Legible) := by
    intro depth v h hc
    rw [(settles_scalar h depth).1, isSome_scalar_iff h hc, h.depth_eq]
    exact (and_iff_right (Nat.zero_le depth)).symm
  induction depth generalizing v with
  | zero =>
    rcases v.scalar_or with h | ⟨items, rfl⟩ | ⟨members, rfl⟩
    · exact hscalar 0 h hc
    · simp [(settles_zero (v := .array items) id).1, Value.depth]
    · simp [(settles_zero (v := .object members) id).1, Value.depth]
  | succ k ih =>
    rcases v.scalar_or with h | ⟨items, rfl⟩ | ⟨members, rfl⟩
    · exact hscalar _ h hc
    · have hitems := Value.canonicalItems_iff.1 hc
      simp only [reread?_array, Option.isSome_map, isSome_mapM, Value.depth, Value.Legible,
        Nat.add_le_add_iff_right, Value.depthItems_le_iff, Value.legibleItems_iff]
      rw [← forall₂_and]
      exact forall₂_congr fun v hv => ih (hitems v hv)
    · have hmembers := Value.canonicalMembers_iff.1 hc.2
      simp only [reread?_object, Option.isSome_map, isSome_mapM, Value.depth, Value.Legible,
        Nat.add_le_add_iff_right, Value.depthMembers_le_iff, Value.legibleMembers_iff,
        rereadMember?]
      rw [← forall₂_and]
      exact forall₂_congr fun m hm => ih (hmembers m hm)

/-- What is made of a written value without doubles is the value.

**Proof sketch.** Induction on the depth that is allowed. Items of an array and members of an object
may go one level less deep, and are made again by the induction hypothesis. -/
lemma reread?_eq_some {depth : Nat} {v : Value} (hd : v.depth ≤ depth) (hc : v.Canonical)
    (hf : v.FloatFree) : reread? depth v = some v := by
  have hscalar : ∀ (depth : Nat) {v : Value}, v.Scalar → v.Canonical → v.FloatFree →
      reread? depth v = some v := by
    intro depth v h hc hf
    rw [(settles_scalar h depth).1, (h.readsBack hc hf).settles.1]
  induction depth generalizing v with
  | zero =>
    rcases v.scalar_or with h | ⟨items, rfl⟩ | ⟨members, rfl⟩
    · exact hscalar 0 h hc hf
    · simp [Value.depth] at hd
    · simp [Value.depth] at hd
  | succ k ih =>
    rcases v.scalar_or with h | ⟨items, rfl⟩ | ⟨members, rfl⟩
    · exact hscalar _ h hc hf
    · have hitems : ∀ v ∈ items, reread? k v = some v := fun v hv =>
        ih (Value.depthItems_le_iff.1 (Nat.le_of_succ_le_succ hd) v hv)
          (Value.canonicalItems_iff.1 hc v hv) (Value.floatFreeItems_iff.1 hf v hv)
      rw [reread?_array, mapM_eq_some hitems]
      rfl
    · have hmembers : ∀ m ∈ members, rereadMember? k m = some m := by
        intro m hm
        rw [rereadMember?, ih (Value.depthMembers_le_iff.1 (Nat.le_of_succ_le_succ hd) m hm)
          (Value.canonicalMembers_iff.1 hc.2 m hm) (Value.floatFreeMembers_iff.1 hf m hm)]
        rfl
      rw [reread?_object, mapM_eq_some hmembers, Option.map_some, Value.ofMembers_of_ascending hc.1]

/-- **A written value is read back.** It must have no doubles, and the reader must be allowed to go
as deep as it is. -/
theorem readValue_write {depth : Nat} {v : Value} (hd : v.depth ≤ depth) (hc : v.Canonical)
    (hf : v.FloatFree) : ReadsBack (readValue depth) Value.write v := by
  intro rest hrest
  apply eq_ok_of_toOption
  rw [settles_write depth v rest hrest]
  exact congrArg (Option.map (·, rest)) (reread?_eq_some hd hc hf)

end Messenger.Json
