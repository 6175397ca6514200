import Mathlib.Tactic.Lemma
import Messenger.Address.Form

set_option relaxedAutoImplicit false
set_option autoImplicit false

/-!
# A pair in a query is read back

The written form of a text holds none of the signs that have a meaning in a query, and its bytes are
those of the text, whatever characters the text is made of. So a query that is written as one pair
is read as that pair.

## Main results

* `Messenger.Address.Form.decode?_encode`: a text is read back from its written form.
* `Messenger.Address.Form.pairs?_encodePair`: a query of one pair is read back.
-/

namespace Messenger

/-- The digits of base sixteen in upper case are read back. -/
lemma Text.digitValue?_upperHexDigit :
    ∀ n < 16, Text.digitValue? 16 (Text.upperHexDigit n) = some n := by
  decide

namespace Address

/-! ### Bytes -/

/-- A list of bytes as an array of bytes. -/
lemma toByteArray_eq (bytes : List UInt8) : bytes.toByteArray = ⟨bytes.toArray⟩ := by
  apply ByteArray.ext
  simp

/-- A byte is read back from its digits. -/
lemma percentDecode_percentByte (b : UInt8) (rest : List Char) :
    percentDecode (percentByte b ++ rest) = b :: percentDecode rest := by
  have hlt : b.toNat < 256 := b.toNat_lt
  have hhigh := Text.digitValue?_upperHexDigit (b.toNat / 16) (by omega)
  have hlow := Text.digitValue?_upperHexDigit (b.toNat % 16) (by omega)
  have hbyte : 16 * (b.toNat / 16) + b.toNat % 16 = b.toNat := Nat.div_add_mod _ _
  simp only [percentByte, List.cons_append, List.nil_append, percentDecode, hhigh, hlow, hbyte,
    UInt8.ofNat_toNat]

/-- Bytes are read back from their digits. -/
lemma percentDecode_bytes (bytes : List UInt8) (rest : List Char) :
    percentDecode (bytes.flatMap percentByte ++ rest) = bytes ++ percentDecode rest := by
  induction bytes with
  | nil => rfl
  | cons b bytes ih =>
    rw [List.flatMap_cons, List.append_assoc, percentDecode_percentByte, ih, List.cons_append]

/-- A character that is no percent sign stands for itself. -/
lemma percentDecode_cons {c : Char} (h : c ≠ '%') (rest : List Char) :
    percentDecode (c :: rest) = String.utf8EncodeChar c ++ percentDecode rest := by
  rw [percentDecode]
  intro a b rest' hc
  exact absurd hc h

/-- The digits of a byte are letters or decimal digits. -/
lemma isAlphanum_of_mem_percentByte {b : UInt8} {c : Char} (h : c ∈ percentByte b) :
    c = '%' ∨ c.isAlphanum := by
  have hdigits : ∀ n < 16, (Text.upperHexDigit n).isAlphanum := by decide
  have hlt : b.toNat < 256 := b.toNat_lt
  simp only [percentByte, List.mem_cons, List.not_mem_nil, or_false] at h
  rcases h with rfl | rfl | rfl
  · exact .inl rfl
  · exact .inr (hdigits _ (by omega))
  · exact .inr (hdigits _ (by omega))

namespace Form

/-! ### Written forms -/

/-- What a written form is made of. -/
lemma keeps_of_mem_encode {s : List Char} {c : Char} (h : c ∈ encode s) :
    c = '+' ∨ c = '%' ∨ keeps c := by
  obtain ⟨d, -, hc⟩ := List.mem_flatMap.1 h
  split at hc
  · exact .inl (List.mem_singleton.1 hc)
  · split at hc
    · next hkeeps =>
      rw [List.mem_singleton.1 hc]
      exact .inr (.inr hkeeps)
    · obtain ⟨b, -, hb⟩ := List.mem_flatMap.1 hc
      rcases isAlphanum_of_mem_percentByte hb with hpercent | halphanum
      · exact .inr (.inl hpercent)
      · exact .inr (.inr (by simp [keeps, halphanum]))

/-- A written form holds none of the signs that part pairs and their names and values. -/
lemma notMem_encode (s : List Char) : '&' ∉ encode s ∧ '=' ∉ encode s := by
  constructor <;> intro h <;> rcases keeps_of_mem_encode h with h | h | h <;> revert h <;> decide

/-- The bytes of a written form are those of the text.

**Proof sketch.** Induction on the text, by the three things that are written for a character. A
blank becomes a plus sign, which is read as a blank. A character that is kept is neither a plus nor
a percent sign. Of any other the bytes are written, in digits that are no plus sign either
(`isAlphanum_of_mem_percentByte`). -/
lemma percentDecode_encode (s : List Char) :
    percentDecode ((encode s).map fun c => if c = '+' then ' ' else c) =
      s.flatMap String.utf8EncodeChar := by
  induction s with
  | nil => rfl
  | cons c rest ih =>
    have hcons : encode (c :: rest) = (if c = ' ' then ['+'] else if keeps c then [c]
        else (String.utf8EncodeChar c).flatMap percentByte) ++ encode rest := rfl
    rw [hcons, List.map_append, List.flatMap_cons, ← ih]
    split
    · next hblank =>
      rw [hblank]
      exact percentDecode_cons (by decide) _
    · split
      · next hkeeps =>
        -- What is kept is neither of the two signs that decoding replaces.
        have hplus : c ≠ '+' := by
          rintro rfl
          revert hkeeps
          decide
        have hpercent : c ≠ '%' := by
          rintro rfl
          revert hkeeps
          decide
        rw [List.map_singleton, if_neg hplus]
        exact percentDecode_cons hpercent _
      · have hsame : ((String.utf8EncodeChar c).flatMap percentByte).map
            (fun c => if c = '+' then ' ' else c) =
              (String.utf8EncodeChar c).flatMap percentByte := by
          refine (List.map_congr_left fun d hd => ?_).trans (List.map_id _)
          obtain ⟨b, -, hb⟩ := List.mem_flatMap.1 hd
          refine if_neg ?_
          rintro rfl
          rcases isAlphanum_of_mem_percentByte hb with h | h <;> revert h <;> decide
        rw [hsame, percentDecode_bytes]

/-- **A written text is read back.** Whatever characters it is made of, the written form of a text
is decoded to the text.

**Proof sketch.** The bytes of the written form are those of the text (`percentDecode_encode`), and
these are well formed. -/
theorem decode?_encode (s : String) : decode? (encode s.toList) = some s := by
  have hbytes : (⟨(s.toList.flatMap String.utf8EncodeChar).toArray⟩ : ByteArray) =
      s.toByteArray := by
    rw [← toByteArray_eq, ← List.utf8Encode, ← String.toByteArray_ofList, String.ofList_toList]
  rw [decode?, percentDecode_encode, hbytes, String.fromUTF8?, dif_pos s.isValidUTF8]
  rfl

/-- **A query of one pair is read back.** It is read as that pair and no other.

**Proof sketch.** Neither the ampersand nor the sign of equality occurs in a written form
(`notMem_encode`). So the query has one part, the first sign of equality in it is the one that was
put there, and on both sides of it `decode?_encode` applies. -/
theorem pairs?_encodePair (name value : String) :
    pairs? (encodePair name value) = some [(name, value)] := by
  obtain ⟨hname, hname'⟩ := notMem_encode name.toList
  obtain ⟨hvalue, -⟩ := notMem_encode value.toList
  have hone : Text.splitAtEvery '&' (encodePair name value) = [encodePair name value] :=
    Text.splitAtEvery_of_notMem (by simp [encodePair, hname, hvalue])
  have hne : encodePair name value ≠ [] := by simp [encodePair]
  have hall : ∀ c ∈ encode name.toList, decide (c ≠ '=') = true := by
    intro c hc
    refine decide_eq_true ?_
    rintro rfl
    exact hname' hc
  have htake : (encodePair name value).takeWhile (· ≠ '=') = encode name.toList := by
    rw [encodePair, List.takeWhile_append_of_pos hall]
    simp
  have hdrop : ((encodePair name value).dropWhile (· ≠ '=')).drop 1 = encode value.toList := by
    rw [encodePair, List.dropWhile_append_of_pos hall]
    simp
  have hpair : pair? (encodePair name value) = some (name, value) := by
    rw [pair?, htake, hdrop, decode?_encode, decode?_encode]
  simp [pairs?, hone, hne, hpair]

end Form

end Address

end Messenger
