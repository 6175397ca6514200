import Messenger.Proofs.Envelope.RoundTrip
import Messenger.Proofs.Json.Reading

set_option relaxedAutoImplicit false
set_option autoImplicit false

/-!
# Which envelopes are read

An envelope that has been read has a kind that its tag stands for, a time that is a moment, and a
payload that is canonical and no deeper than the reader was allowed to go. So what its written form
does not tell can only be in its payload.

## Main definitions

* `Messenger.Envelope.Received`: what is true of all envelopes that are read.

## Main results

* `Messenger.Envelope.received_of_decode`, `Messenger.Envelope.received_of_decodeAll`: an envelope
  that has been decoded, alone or in a stored text, is such a one.
* `Messenger.Envelope.Received.reread?_cases`: when such an envelope is read again.
-/

namespace Messenger

/-- What comes out of two steps that went well came out of the second one, with what came out of the
first. -/
lemma exists_of_bind_eq_ok {ε α β : Type} {r : Except ε α} {f : α → Except ε β} {y : β}
    (h : (r >>= f) = .ok y) : ∃ x, r = .ok x ∧ f x = .ok y := by
  cases r with
  | error e => cases h
  | ok x => exact ⟨x, rfl, h⟩

/-- A text that denotes a moment denotes a valid one. -/
lemma Timestamp.valid_of_read {s : List Char} {t : Timestamp} (h : read s = .ok t) : t.Valid := by
  unfold read at h
  obtain ⟨⟨d, s₁⟩, -, h⟩ := exists_of_bind_eq_ok h
  obtain ⟨s₂, -, h⟩ := exists_of_bind_eq_ok h
  obtain ⟨⟨hour, s₃⟩, -, h⟩ := exists_of_bind_eq_ok h
  obtain ⟨s₄, -, h⟩ := exists_of_bind_eq_ok h
  obtain ⟨⟨minute, s₅⟩, -, h⟩ := exists_of_bind_eq_ok h
  obtain ⟨s₆, -, h⟩ := exists_of_bind_eq_ok h
  obtain ⟨⟨second, s₇⟩, -, h⟩ := exists_of_bind_eq_ok h
  obtain ⟨⟨nano, s₈⟩, -, h⟩ := exists_of_bind_eq_ok h
  obtain ⟨⟨minutes, s₉⟩, -, h⟩ := exists_of_bind_eq_ok h
  dsimp only at h
  split at h
  · exact valid_of_resolve h
  · cases h

namespace Envelope

open Json (exists_of_map_eq_ok)

/-- What is true of all envelopes that are read by a reader that may go `levels` deep behind the
bracket of the envelope. -/
structure Received (levels : Nat) (e : Envelope) : Prop where
  kind : Kind.ofTag e.kind.tag = e.kind
  timestamp : e.timestamp.Valid
  canonical : e.payload.Canonical
  depth : e.payload.depth ≤ levels

/-! ### Members -/

/-- What is true of the members that have been read. -/
structure Draft.Sound (levels : Nat) (d : Draft) : Prop where
  kind : ∀ kind, d.kind = some kind → Kind.ofTag kind.tag = kind
  payload : ∀ v, d.payload = some v → v.Canonical ∧ v.depth ≤ levels
  timestamp : ∀ t, d.timestamp = some t → t.Valid

/-- It is true of no members. -/
lemma Draft.sound_empty (levels : Nat) : Draft.empty.Sound levels :=
  ⟨nofun, nofun, nofun⟩

/-- A kind that has been read is the one that its tag stands for. -/
lemma ofTag_tag_of_readKind {s rest : List Char} {kind : Kind}
    (h : readKind s = .ok (kind, rest)) : Kind.ofTag kind.tag = kind := by
  obtain ⟨r, -, hr⟩ := exists_of_map_eq_ok h
  obtain ⟨rfl, -⟩ := Prod.mk.inj hr
  rw [Kind.tag_ofTag]

/-- A time that has been read is valid. -/
lemma valid_of_readTimestamp {s rest : List Char} {t : Timestamp}
    (h : readTimestamp s = .ok (t, rest)) : t.Valid := by
  unfold readTimestamp at h
  split at h
  · cases h
  · split at h
    · next hread =>
      cases h
      exact Timestamp.valid_of_read hread
    · cases h

/-- What is read of a member that may occur once is read behind its colon. -/
lemma exists_of_readOnce {α : Type} {name : String} {old : Option α} {read : Json.Reader α}
    {s rest : List Char} {x : α} (h : readOnce name old read s = .ok (x, rest)) :
    ∃ s', read s' = .ok (x, rest) := by
  unfold readOnce at h
  split at h
  · cases h
  · split at h
    · cases h
    · exact ⟨_, h⟩

/-- One more member that is read is as sound as those before.

**Proof sketch.** One case for each name that an envelope has, and one for all others. What is read
of a type is made of its tag, what is read of a payload is canonical and not too deep, and what is
read of a timestamp is a moment; the other places are as they were. -/
lemma Draft.Sound.readMember {levels : Nat} {d d' : Draft} (hd : d.Sound levels) {name : String}
    {s rest : List Char} (h : d.readMember levels name s = .ok (d', rest)) : d'.Sound levels := by
  unfold Draft.readMember at h
  split at h
  · obtain ⟨⟨kind, _⟩, hread, hr⟩ := exists_of_map_eq_ok h
    obtain ⟨s', hread⟩ := exists_of_readOnce hread
    obtain ⟨rfl, -⟩ := Prod.mk.inj hr
    refine ⟨?_, hd.payload, hd.timestamp⟩
    rintro _ ⟨rfl⟩
    exact ofTag_tag_of_readKind hread
  · obtain ⟨⟨payload, _⟩, hread, hr⟩ := exists_of_map_eq_ok h
    obtain ⟨s', hread⟩ := exists_of_readOnce hread
    obtain ⟨rfl, -⟩ := Prod.mk.inj hr
    refine ⟨hd.kind, ?_, hd.timestamp⟩
    rintro _ ⟨rfl⟩
    exact Json.canonical_of_readValue hread
  · obtain ⟨⟨timestamp, _⟩, hread, hr⟩ := exists_of_map_eq_ok h
    obtain ⟨s', hread⟩ := exists_of_readOnce hread
    obtain ⟨rfl, -⟩ := Prod.mk.inj hr
    refine ⟨hd.kind, hd.payload, ?_⟩
    rintro _ ⟨rfl⟩
    exact valid_of_readTimestamp hread
  · obtain ⟨_, -, hr⟩ := exists_of_map_eq_ok h
    obtain ⟨rfl, -⟩ := Prod.mk.inj hr
    exact ⟨hd.kind, hd.payload, hd.timestamp⟩
  · split at h
    · cases h
    · obtain ⟨_, -, hr⟩ := exists_of_map_eq_ok h
      obtain ⟨rfl, -⟩ := Prod.mk.inj hr
      exact hd

/-- All members of an object that are read are sound.

**Proof sketch.** Induction on the turns. A turn reads one member. -/
lemma Draft.Sound.readMembers {levels turns : Nat} {first : Bool} {d d' : Draft}
    (hd : d.Sound levels) {s rest : List Char}
    (h : Draft.readMembers levels turns first d s = .ok (d', rest)) : d'.Sound levels := by
  induction turns generalizing first d s with
  | zero => cases h
  | succ turns ih =>
    simp only [Draft.readMembers] at h
    split at h
    · cases h
    · cases h
      exact hd
    · split at h
      · cases h
      · split at h
        · cases h
        · next hmember => exact ih (hd.readMember hmember) h

/-- An item of an array that is read is read behind a comma. -/
lemma exists_of_readNext {α : Type} {first : Bool} {item : Json.Reader α} {s rest : List Char}
    {x : α} (h : readNext first item s = .ok (some x, rest)) : ∃ s', item s' = .ok (x, rest) := by
  unfold readNext at h
  split at h
  · cases h
  · cases h
  · obtain ⟨⟨y, _⟩, hread, hr⟩ := exists_of_map_eq_ok h
    cases hr
    exact ⟨_, hread⟩

/-- The items of an array that are read are sound members.

**Proof sketch.** The items in their order. Wherever the array ends, what has been read up to there
is sound. -/
lemma Draft.sound_of_readItems {levels : Nat} {d : Draft} {s rest : List Char}
    (h : Draft.readItems levels s = .ok (d, rest)) : d.Sound levels := by
  unfold Draft.readItems at h
  split at h
  · cases h
  · cases h
  · next kind s₁ _ hkind =>
    have hkind : ∀ k, kind = some k → Kind.ofTag k.tag = k := by
      rintro k rfl
      obtain ⟨s', hread⟩ := exists_of_readNext hkind
      exact ofTag_tag_of_readKind hread
    split at h
    · cases h
    · cases h
      exact ⟨hkind, nofun, nofun⟩
    · next payload s₂ _ hpayload =>
      have hpayload : ∀ v, payload = some v → v.Canonical ∧ v.depth ≤ levels := by
        rintro v rfl
        obtain ⟨s', hread⟩ := exists_of_readNext hpayload
        exact Json.canonical_of_readValue hread
      split at h
      · cases h
      · cases h
        exact ⟨hkind, hpayload, nofun⟩
      · next timestamp s₃ _ htimestamp =>
        obtain ⟨_, -, hr⟩ := exists_of_map_eq_ok h
        obtain ⟨rfl, -⟩ := Prod.mk.inj hr
        refine ⟨hkind, hpayload, ?_⟩
        rintro t rfl
        obtain ⟨s', hread⟩ := exists_of_readNext htimestamp
        exact valid_of_readTimestamp hread

/-! ### Envelopes -/

/-- The envelope that sound members make is as all are that are read.

**Proof sketch.** A timestamp that is missing is the moment of reading, which is valid. -/
lemma Draft.Sound.finish {levels : Nat} {now : Timestamp} (hnow : now.Valid) {d : Draft}
    (hd : d.Sound levels) {e : Envelope} (h : d.finish now = .ok e) : e.Received levels := by
  unfold Draft.finish at h
  split at h
  · cases h
  · next kind hkind =>
    cases h
    refine ⟨hd.kind _ hkind, ?_, ?_, ?_⟩
    · cases ht : d.timestamp with
      | none => exact hnow
      | some t => exact hd.timestamp t ht
    · cases hv : d.payload with
      | none => exact trivial
      | some v => exact (hd.payload v hv).1
    · cases hv : d.payload with
      | none => exact Nat.zero_le levels
      | some v => exact (hd.payload v hv).2

/-- The envelope that members make has the kind that is among them. -/
lemma Draft.kind_of_finish {now : Timestamp} {d : Draft} {e : Envelope}
    (h : d.finish now = .ok e) : d.kind = some e.kind := by
  unfold Draft.finish at h
  split at h
  · cases h
  · next hkind =>
    cases h
    exact hkind

/-- An envelope that has been read is made of sound members.

**Proof sketch.** An array is read by its items, an object by its members, and nothing else is read
at all. -/
lemma exists_sound_of_reader {levels : Nat} {now : Timestamp} {s rest : List Char} {e : Envelope}
    (h : reader now (levels + 1) s = .ok (e, rest)) :
    ∃ d : Draft, d.Sound levels ∧ d.finish now = .ok e := by
  unfold reader at h
  split at h
  · cases h
  · unfold readArray at h
    dsimp only at h
    split at h
    · cases h
    · next hitems =>
      split at h
      · cases h
      · next hfinish =>
        obtain ⟨_, -, hr⟩ := exists_of_map_eq_ok h
        obtain ⟨rfl, -⟩ := Prod.mk.inj hr
        exact ⟨_, Draft.sound_of_readItems hitems, hfinish⟩
  · unfold readObject at h
    dsimp only at h
    split at h
    · cases h
    · next hmembers =>
      split at h
      · cases h
      · next hfinish =>
        obtain ⟨_, -, hr⟩ := exists_of_map_eq_ok h
        obtain ⟨rfl, -⟩ := Prod.mk.inj hr
        exact ⟨_, (Draft.sound_empty levels).readMembers hmembers, hfinish⟩
  · cases h

/-- An envelope that has been read is such a one. -/
lemma received_of_reader {levels : Nat} {now : Timestamp} (hnow : now.Valid) {s rest : List Char}
    {e : Envelope} (h : reader now (levels + 1) s = .ok (e, rest)) : e.Received levels := by
  obtain ⟨d, hd, hfinish⟩ := exists_sound_of_reader h
  exact hd.finish hnow hfinish

/-- What is read of a whole text is read from the front of it. -/
lemma exists_of_decode {α : Type} {read : Json.Reader α} {text : String} {x : α}
    (h : Json.decode read text = .ok x) : ∃ rest, read text.toList = .ok (x, rest) := by
  unfold Json.decode at h
  split at h
  · cases h
  · next hread =>
    split at h
    · cases h
      exact ⟨_, hread⟩
    · cases h

/-- **What is true of all envelopes that are read.** An envelope that has been decoded has a kind
that its tag stands for, a valid time and a canonical payload that is not too deep. -/
theorem received_of_decode {now : Timestamp} (hnow : now.Valid) {text : String} {e : Envelope}
    (h : decode now text = .ok e) : e.Received 126 := by
  unfold decode at h
  split at h
  · next hdecode =>
    cases h
    obtain ⟨_, hread⟩ := exists_of_decode hdecode
    exact received_of_reader hnow hread
  · cases h

/-- The kind of an envelope that has been decoded is the one that its tag stands for. -/
lemma ofTag_tag_of_decode {now : Timestamp} {text : String} {e : Envelope}
    (h : decode now text = .ok e) : Kind.ofTag e.kind.tag = e.kind := by
  unfold decode at h
  split at h
  · next hdecode =>
    cases h
    obtain ⟨_, hread⟩ := exists_of_decode hdecode
    obtain ⟨d, hd, hfinish⟩ := exists_sound_of_reader hread
    exact hd.kind _ (Draft.kind_of_finish hfinish)
  · cases h

/-- **The same of stored envelopes.** The array around them takes one level. -/
theorem received_of_decodeAll {now : Timestamp} (hnow : now.Valid) {text : String}
    {es : List Envelope} (h : decodeAll now text = .ok es) : ∀ e ∈ es, e.Received 125 := by
  obtain ⟨_, hread⟩ := exists_of_decode h
  unfold Json.readArray at hread
  split at hread
  · exact Json.forall_of_readItemsFrom (fun _ _ _ => received_of_reader hnow) (by simp) hread
  · cases hread

/-! ### Reading again -/

/-- An envelope that has been read is told in full if its payload holds no doubles. -/
lemma Received.faithful {levels : Nat} {e : Envelope} (h : e.Received levels)
    (hfloatFree : e.payload.FloatFree) : e.Faithful levels :=
  ⟨h.kind, h.timestamp, h.canonical, hfloatFree, h.depth⟩

/-- **When an envelope is read again.** This goes well exactly if the reader may go as deep as the
payload is and all doubles in that are legible. It is then read with the same kind and the same
identifier.

**Proof sketch.** What is made of the written form is made of its payload and of its time
(`settles_write`). A valid time is read back, and of a canonical payload something is made under
just this condition (`Json.isSome_reread?_iff`). -/
theorem Received.reread?_cases {levels : Nat} {e : Envelope} (h : e.Received levels) (depth : Nat)
    (now : Timestamp) :
    (e.payload.depth ≤ depth ∧ e.payload.Legible ∧
        ∃ e', e.reread? now (depth + 1) = some e' ∧ e'.kind = e.kind ∧
          e'.requestId = e.requestId) ∨
      (¬ (e.payload.depth ≤ depth ∧ e.payload.Legible) ∧ e.reread? now (depth + 1) = none) := by
  have hsome := Json.isSome_reread?_iff depth h.canonical
  rw [(settles_write now depth e).1, Timestamp.read_render h.timestamp, h.kind]
  cases hv : Json.reread? depth e.payload with
  | none =>
    rw [hv] at hsome
    exact .inr ⟨by simpa using hsome, rfl⟩
  | some v =>
    rw [hv] at hsome
    obtain ⟨hdepth, hlegible⟩ := hsome.1 rfl
    exact .inl ⟨hdepth, hlegible, _, rfl, rfl, rfl⟩

end Envelope

end Messenger
