import Messenger.Proofs.Json.RoundTrip

set_option relaxedAutoImplicit false
set_option autoImplicit false

/-!
# Which values are read

A value that has been read is canonical: its integers are in range, and the names of its objects
ascend. It is no deeper than the reader was allowed to go.

## Main results

* `Messenger.Json.Value.canonical_ofMembers`: members of any names make a canonical object.
* `Messenger.Json.canonical_of_readValue`: a value that has been read is canonical.
-/

namespace Messenger.Json

/-- What comes out of a reading that went well came out of what was read. -/
lemma exists_of_map_eq_ok {ε α β : Type} {f : α → β} {r : Except ε α} {y : β}
    (h : r.map f = .ok y) : ∃ x, r = .ok x ∧ f x = y := by
  cases r with
  | error e => cases h
  | ok x => exact ⟨x, rfl, by cases h; rfl⟩

/-! ### Scalars -/

/-- What is gathered stays below the limit. -/
lemma significand_gather_lt {n : Nat} (h : n < Text.limit64) (count : Nat) (s : List Char) :
    (gather n count s).significand < Text.limit64 := by
  induction s generalizing n count with
  | nil => exact h
  | cons c s ih =>
    simp only [gather]
    split
    · exact h
    · split
      · next hlt => exact ih hlt _
      · exact h

/-- A number without fraction and exponent is a canonical scalar. -/
lemma canonical_integer {n : Nat} (h : n < Text.limit64) (negative : Bool) :
    (integer negative n).Scalar ∧ (integer negative n).Canonical := by
  unfold Text.limit64 at h
  unfold integer
  split
  · split
    · exact ⟨trivial, trivial⟩
    · next hfits =>
      rw [not_or, Text.limit64] at hfits
      refine ⟨trivial, ?_⟩
      constructor <;> omega
  · refine ⟨trivial, ?_⟩
    constructor <;> omega

/-- A double is a canonical scalar. -/
lemma canonical_of_map_signed {r : Except Error (Float × List Char)} {negative : Bool} {v : Value}
    {rest : List Char} (h : r.map (signed negative) = .ok (v, rest)) : v.Scalar ∧ v.Canonical := by
  obtain ⟨x, -, hx⟩ := exists_of_map_eq_ok h
  cases hx
  exact ⟨trivial, trivial⟩

/-- What is read behind the first digits is a canonical scalar. -/
lemma canonical_of_readTail {negative : Bool} {n : Nat} (hn : n < Text.limit64) {s rest : List Char}
    {v : Value} (h : readTail negative n s = .ok (v, rest)) : v.Scalar ∧ v.Canonical := by
  unfold readTail at h
  split at h
  · exact canonical_of_map_signed h
  · exact canonical_of_map_signed h
  · exact canonical_of_map_signed h
  · cases h
    exact canonical_integer hn negative

/-- A number that is read is a canonical scalar.

**Proof sketch.** Whatever has been gathered stays below the limit (`significand_gather_lt`), so an
integer is in range; a double is canonical by itself. -/
lemma canonical_of_readNumber {negative : Bool} {s rest : List Char} {v : Value}
    (h : readNumber negative s = .ok (v, rest)) : v.Scalar ∧ v.Canonical := by
  have hzero : 0 < Text.limit64 := by decide
  unfold readNumber at h
  split at h
  · cases h
  · split at h
    · split at h
      · cases h
      · exact canonical_of_readTail hzero h
    · exact canonical_of_readTail hzero h
  · split at h
    · dsimp only at h
      split at h
      · exact canonical_of_readTail (significand_gather_lt hzero _ _) h
      · split at h <;> exact canonical_of_map_signed h
    · cases h

/-- What is read as a scalar is a canonical one.

**Proof sketch.** One branch for each kind of scalar. Numbers are read by `canonical_of_readNumber`;
words and texts are canonical by themselves. -/
lemma canonical_of_readScalar {s rest : List Char} {v : Value}
    (h : readScalar s = .ok (v, rest)) : v.Scalar ∧ v.Canonical := by
  unfold readScalar at h
  split at h
  · cases h
  · obtain ⟨_, -, hx⟩ := exists_of_map_eq_ok h
    cases hx
    exact ⟨trivial, trivial⟩
  · obtain ⟨_, -, hx⟩ := exists_of_map_eq_ok h
    cases hx
    exact ⟨trivial, trivial⟩
  · obtain ⟨_, -, hx⟩ := exists_of_map_eq_ok h
    cases hx
    exact ⟨trivial, trivial⟩
  · exact canonical_of_readNumber h
  · obtain ⟨_, -, hx⟩ := exists_of_map_eq_ok h
    cases hx
    exact ⟨trivial, trivial⟩
  · split at h
    · exact canonical_of_readNumber h
    · cases h

/-! ### Entries -/

variable {α : Type} {P : α → Prop}

/-- What holds of each item that can be read holds of all that are.

**Proof sketch.** Induction on the turns. A turn takes one item. -/
lemma forall_of_readItemsFrom {item : Reader α}
    (hitem : ∀ s x rest, item s = .ok (x, rest) → P x) {turns : Nat} {acc xs : List α}
    {s rest : List Char} (hacc : ∀ x ∈ acc, P x)
    (h : readItemsFrom item turns acc s = .ok (xs, rest)) : ∀ x ∈ xs, P x := by
  induction turns generalizing acc s with
  | zero => cases h
  | succ turns ih =>
    simp only [readItemsFrom] at h
    split at h
    · cases h
    · obtain ⟨_, -, hx⟩ := exists_of_map_eq_ok h
      cases hx
      simpa using hacc
    · split at h
      · cases h
      · next hx =>
        refine ih ?_ h
        intro y hy
        rcases List.mem_cons.1 hy with rfl | hy
        · exact hitem _ _ _ hx
        · exact hacc y hy

/-- What holds of each value that can be read holds of those of all members that are.

**Proof sketch.** Induction on the turns. A turn takes one member. -/
lemma forall_of_readMembersFrom {value : Reader α}
    (hvalue : ∀ s x rest, value s = .ok (x, rest) → P x) {turns : Nat}
    {acc members : List (String × α)} {s rest : List Char} (hacc : ∀ m ∈ acc, P m.2)
    (h : readMembersFrom value turns acc s = .ok (members, rest)) : ∀ m ∈ members, P m.2 := by
  induction turns generalizing acc s with
  | zero => cases h
  | succ turns ih =>
    simp only [readMembersFrom] at h
    split at h
    · cases h
    · obtain ⟨_, -, hx⟩ := exists_of_map_eq_ok h
      cases hx
      simpa using hacc
    · split at h
      · cases h
      · split at h
        · cases h
        · split at h
          · cases h
          · next hx =>
            refine ih ?_ h
            intro m hm
            rcases List.mem_cons.1 hm with rfl | hm
            · exact hvalue _ _ _ hx
            · exact hacc m hm

/-! ### Values -/

/-- A member of an object into which another one was put is that one or was there before.

**Proof sketch.** Induction on the members, as the insertion goes through them. -/
lemma Value.eq_or_mem_of_mem_insertMember {name : String} {v : Value}
    {members : List (String × Value)} {m : String × Value}
    (h : m ∈ insertMember name v members) : m = (name, v) ∨ m ∈ members := by
  induction members with
  | nil => simpa [insertMember] using h
  | cons n members ih =>
    obtain ⟨other, w⟩ := n
    simp only [insertMember] at h
    split at h
    · simpa using h
    · split at h
      · rcases List.mem_cons.1 h with h | h
        · exact .inl h
        · exact .inr (by simp [h])
      · rcases List.mem_cons.1 h with h | h
        · exact .inr (by simp [h])
        · rcases ih h with h | h
          · exact .inl h
          · exact .inr (by simp [h])

/-- **Members of any names make a canonical object.** It is no deeper by more than one level than
they are.

**Proof sketch.** The members are put in one after the other. Each insertion keeps the names in
order (`insertMember_ascending`) and adds no other value. -/
lemma Value.canonical_ofMembers {members : List (String × Value)} {k : Nat}
    (h : ∀ m ∈ members, m.2.Canonical ∧ m.2.depth ≤ k) :
    (ofMembers members).Canonical ∧ (ofMembers members).depth ≤ k + 1 := by
  have hfold : ∀ acc : List (String × Value), (acc.map (·.1)).Pairwise (· < ·) →
      (∀ m ∈ acc, m.2.Canonical ∧ m.2.depth ≤ k) →
      ((members.foldl (fun acc m => insertMember m.1 m.2 acc) acc).map (·.1)).Pairwise (· < ·) ∧
        ∀ m ∈ members.foldl (fun acc m => insertMember m.1 m.2 acc) acc,
          m.2.Canonical ∧ m.2.depth ≤ k := by
    induction members with
    | nil => exact fun acc hnames hacc => ⟨hnames, hacc⟩
    | cons m members ih =>
      intro acc hnames hacc
      refine ih (fun n hn => h n (by simp [hn])) _ (insertMember_ascending hnames) ?_
      intro n hn
      rcases eq_or_mem_of_mem_insertMember hn with rfl | hn
      · exact h m (by simp)
      · exact hacc n hn
  obtain ⟨hnames, hall⟩ := hfold [] List.Pairwise.nil (by simp)
  refine ⟨⟨hnames, canonicalMembers_iff.2 fun m hm => (hall m hm).1⟩, ?_⟩
  exact Nat.succ_le_succ (depthMembers_le_iff.2 fun m hm => (hall m hm).2)

/-- **What is read is canonical.** The integers of a value that has been read are in range and the
names of its objects ascend, and it is no deeper than the reader was allowed to go.

**Proof sketch.** Induction on the depth that is allowed. Items of an array and values of members
may go one level less deep. -/
theorem canonical_of_readValue {depth : Nat} {s rest : List Char} {v : Value}
    (h : readValue depth s = .ok (v, rest)) : v.Canonical ∧ v.depth ≤ depth := by
  have hscalar : ∀ {depth : Nat} {s rest : List Char} {v : Value},
      readScalar s = .ok (v, rest) → v.Canonical ∧ v.depth ≤ depth := by
    intro depth s rest v h
    obtain ⟨hs, hc⟩ := canonical_of_readScalar h
    exact ⟨hc, hs.depth_eq ▸ Nat.zero_le depth⟩
  induction depth generalizing s rest v with
  | zero =>
    unfold readValue at h
    split at h
    · cases h
    · cases h
    · exact hscalar h
  | succ k ih =>
    unfold readValue at h
    split at h
    · obtain ⟨⟨items, _⟩, hread, hx⟩ := exists_of_map_eq_ok h
      cases hx
      have hitems := forall_of_readItemsFrom (fun _ _ _ => ih) (by simp) hread
      refine ⟨Value.canonicalItems_iff.2 fun v hv => (hitems v hv).1, ?_⟩
      exact Nat.succ_le_succ (Value.depthItems_le_iff.2 fun v hv => (hitems v hv).2)
    · obtain ⟨⟨members, _⟩, hread, hx⟩ := exists_of_map_eq_ok h
      cases hx
      exact Value.canonical_ofMembers
        (forall_of_readMembersFrom (fun _ _ _ => ih) (by simp) hread)
    · exact hscalar h

end Messenger.Json
