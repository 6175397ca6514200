import Mathlib.Tactic.Lemma
import Messenger.Domain.Name

set_option relaxedAutoImplicit false
set_option autoImplicit false

/-!
# What names of hosts are made of

A name in ASCII holds none of the signs that have a meaning in an address. The name that is given is
refused if it has one after its characters have been replaced, and a label that is written in
letters, digits and hyphens gets no other characters.

## Main results

* `Messenger.Domain.Punycode.mem_encode`: what the written form of a label is made of.
* `Messenger.Domain.not_isForbidden_of_toAscii?`: a name in ASCII has no forbidden characters.
-/

namespace Messenger

namespace Text

/-- The parts of a text hold nothing but its characters.

**Proof sketch.** Induction on the text. A part of the whole is a part of the rest, or the first of
these with a character in front. -/
lemma mem_of_mem_splitAtEvery {separator : Char} {s part : List Char} {c : Char}
    (h : part ∈ splitAtEvery separator s) (hc : c ∈ part) : c ∈ s := by
  induction s generalizing part with
  | nil =>
    rw [List.mem_singleton.1 h] at hc
    exact hc
  | cons d rest ih =>
    unfold splitAtEvery at h
    split at h
    · rcases List.mem_cons.1 h with rfl | h
      · cases hc
      · exact List.mem_cons_of_mem _ (ih h hc)
    · split at h
      · rw [List.mem_singleton.1 h] at hc
        rw [List.mem_singleton.1 hc]
        exact List.mem_cons_self
      · next first parts heq =>
        rcases List.mem_cons.1 h with rfl | h
        · rcases List.mem_cons.1 hc with rfl | hc
          · exact List.mem_cons_self
          · exact List.mem_cons_of_mem _ (ih (by rw [heq]; exact List.mem_cons_self) hc)
        · exact List.mem_cons_of_mem _ (ih (by rw [heq]; exact List.mem_cons_of_mem _ h) hc)

/-- Parts that are put together hold nothing but their characters and the separator.

**Proof sketch.** Induction on the parts. A character is in the first one, or the separator behind
it, or in what the rest is put together to. -/
lemma mem_intercalate {separator : Char} {parts : List (List Char)} {c : Char}
    (h : c ∈ [separator].intercalate parts) : c = separator ∨ ∃ part ∈ parts, c ∈ part := by
  induction parts with
  | nil => cases h
  | cons part rest ih =>
    cases rest with
    | nil => exact .inr ⟨part, List.mem_cons_self, by simpa [List.intercalate] using h⟩
    | cons next rest =>
      have hsplit : [separator].intercalate (part :: next :: rest) =
          part ++ separator :: [separator].intercalate (next :: rest) := by
        simp [List.intercalate, List.intersperse]
      rw [hsplit] at h
      rcases List.mem_append.1 h with h | h
      · exact .inr ⟨part, List.mem_cons_self, h⟩
      · rcases List.mem_cons.1 h with rfl | h
        · exact .inl rfl
        · rcases ih h with hc | ⟨part', hpart', hc⟩
          · exact .inl hc
          · exact .inr ⟨part', List.mem_cons_of_mem _ hpart', hc⟩

end Text

namespace Domain

/-! ### Letters, digits and hyphens -/

namespace Punycode

/-- No threshold is greater than the greatest one. -/
lemma threshold_le (position bias : Nat) : threshold position bias ≤ 26 := by
  unfold threshold
  split
  · decide
  · exact Nat.min_le_left _ _

/-- A distance is written in digits.

**Proof sketch.** Induction on the turns: each of them writes one digit, and the last digit ends the
number. -/
lemma mem_writeDistance {bias turns position q : Nat} {c : Char}
    (h : c ∈ writeDistance bias turns position q) : ∃ n < 36, c = digit n := by
  induction turns generalizing position q with
  | zero => cases h
  | succ turns ih =>
    have hthreshold := threshold_le position bias
    unfold writeDistance at h
    dsimp only at h
    split at h
    · exact ⟨q, by omega, List.mem_singleton.1 h⟩
    · rcases List.mem_cons.1 h with h | h
      · refine ⟨_, ?_, h⟩
        have hmod := Nat.mod_lt (q - threshold position bias)
          (show 0 < base - threshold position bias by unfold base; omega)
        unfold base at hmod ⊢
        omega
      · exact ih h

/-- Insertions are written in digits. -/
lemma mem_writeInsertions {n : Nat} {cs : List Nat} {s : State} {c : Char}
    (h : c ∈ (writeInsertions n cs s).1) : ∃ n < 36, c = digit n := by
  induction cs generalizing s with
  | nil => cases h
  | cons d rest ih =>
    unfold writeInsertions at h
    split at h
    · exact ih h
    · split at h
      · rcases List.mem_append.1 h with h | h
        · exact mem_writeDistance h
        · exact ih h
      · exact ih h

/-- All insertions are written in digits. -/
lemma mem_writeAll {cs : List Nat} {turns n : Nat} {s : State} {c : Char}
    (h : c ∈ writeAll cs turns n s) : ∃ n < 36, c = digit n := by
  induction turns generalizing n s with
  | zero => cases h
  | succ turns ih =>
    unfold writeAll at h
    split at h
    · cases h
    · rcases List.mem_append.1 h with h | h
      · exact mem_writeInsertions h
      · exact ih h

/-- **What the written form of a label is made of.** It is made of characters of the label, hyphens
and digits. -/
lemma mem_encode {label : List Char} {c : Char} (h : c ∈ encode label) :
    c ∈ label ∨ c = '-' ∨ ∃ n < 36, c = digit n := by
  rcases List.mem_append.1 h with h | h
  · split at h
    · cases h
    · rcases List.mem_append.1 h with h | h
      · exact .inl (List.mem_filter.1 h).1
      · exact .inr (.inl (List.mem_singleton.1 h))
  · exact .inr (.inr (mem_writeAll h))

end Punycode

/-! ### Names -/

/-- A label that is written in ASCII has no forbidden characters if it had none before.

**Proof sketch.** The label stays as it is, or is written behind the mark. What is then written is
made of characters of the label, hyphens and digits (`Punycode.mem_encode`), and of the mark and the
digits none is forbidden. -/
lemma not_isForbidden_of_toLabel? {s : List Char} {label : Label} (h : toLabel? s = some label)
    (hs : ∀ c ∈ s, isForbidden c = false) : ∀ c ∈ label.written, isForbidden c = false := by
  have hdigits : ∀ n < 36, isForbidden (Punycode.digit n) = false := by decide
  have hmark : ∀ c ∈ mark, isForbidden c = false := by
    have hall : mark.all (!isForbidden ·) := by decide
    simpa using hall
  unfold toLabel? at h
  split at h
  · split at h
    · obtain ⟨read, -, rfl⟩ := Option.map_eq_some_iff.1 h
      exact hs
    · cases h
  · split at h
    · split at h
      · cases h
        exact hs
      · split at h
        · cases h
          refine List.forall_mem_append.2 ⟨hmark, fun c hc => ?_⟩
          rcases Punycode.mem_encode hc with hc | rfl | ⟨n, hn, rfl⟩
          · exact hs c hc
          · decide
          · exact hdigits n hn
        · cases h
    · cases h

/-- Each label of a name comes from a part of it.

**Proof sketch.** Induction on the parts, one label for each of them. -/
lemma exists_of_mapM_toLabel? {parts : List (List Char)} {labels : List Label}
    (h : parts.mapM toLabel? = some labels) {label : Label} (hlabel : label ∈ labels) :
    ∃ s ∈ parts, toLabel? s = some label := by
  induction parts generalizing labels with
  | nil =>
    cases h
    cases hlabel
  | cons s rest ih =>
    rw [List.mapM_cons] at h
    obtain ⟨first, hfirst, h⟩ := Option.bind_eq_some_iff.1 h
    obtain ⟨others, hothers, h⟩ := Option.bind_eq_some_iff.1 h
    cases h
    rcases List.mem_cons.1 hlabel with rfl | hlabel
    · exact ⟨s, List.mem_cons_self, hfirst⟩
    · obtain ⟨s', hs', hsome⟩ := ih hothers hlabel
      exact ⟨s', List.mem_cons_of_mem _ hs', hsome⟩

/-- **A name in ASCII has no forbidden characters.** So a name that has been accepted holds none of
the signs that have a meaning in an address.

**Proof sketch.** The name is refused if it has one after its characters have been replaced. Its
labels are made of its parts, and get no forbidden character (`not_isForbidden_of_toLabel?`);
between them stand dots. -/
theorem not_isForbidden_of_toAscii? {name ascii : List Char} (h : toAscii? name = some ascii) :
    ∀ c ∈ ascii, isForbidden c = false := by
  unfold toAscii? at h
  split at h
  · cases h
  · next replaced _ =>
    dsimp only at h
    split at h
    · cases h
    · next hallowed =>
      split at h
      · cases h
      · next labels hlabels =>
        split at h
        · cases h
          intro c hc
          rcases Text.mem_intercalate hc with rfl | ⟨written, hwritten, hc⟩
          · decide
          · obtain ⟨label, hlabel, rfl⟩ := List.mem_map.1 hwritten
            obtain ⟨s, hs, hsome⟩ := exists_of_mapM_toLabel? hlabels hlabel
            refine not_isForbidden_of_toLabel? hsome (fun d hd => ?_) c hc
            have hd' := Text.mem_of_mem_splitAtEvery hs hd
            simpa using fun hforbidden => hallowed (List.any_eq_true.2 ⟨d, hd', hforbidden⟩)
        · cases h

end Domain

end Messenger
