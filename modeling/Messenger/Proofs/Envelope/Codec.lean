import Messenger.Proofs.Envelope.Reading

set_option relaxedAutoImplicit false
set_option autoImplicit false

/-!
# Encoding and decoding

An envelope without doubles that is encoded and decoded is the same again, if it is one that can
come in a frame at all: its kind is told by its tag, its time is a moment, and its payload is not
nested too deep. The text of a frame need not be the one that the envelope is encoded to. Once it
has been decoded and encoded, it does not change any more.

## Main definitions

* `Messenger.Envelope.Carried`: a time that comes in a frame.

## Main results

* `Messenger.Envelope.faithful_iff_decoded`: which envelopes without doubles come in frames.
* `Messenger.Envelope.carried_iff_valid`: which times do.
* `Messenger.Envelope.encode_inj`: different envelopes have different texts.
* `Messenger.Envelope.codec`: what is encoded is decoded, and what has been decoded is encoded to a
  text that stays as it is.
-/

namespace Messenger.Envelope

/-- A time that some frame gives its envelope, or that is given to one that comes without. -/
def Carried (t : Timestamp) : Prop :=
  ∃ now text e, now.Valid ∧ decode now text = .ok e ∧ e.timestamp = t

/-- **Which envelopes come in frames.** An envelope without doubles comes in some frame exactly if
its written form tells all of it. -/
theorem faithful_iff_decoded {e : Envelope} (hfloatFree : e.payload.FloatFree) :
    e.Faithful 126 ↔ ∃ now text, now.Valid ∧ decode now text = .ok e := by
  constructor
  · intro h
    exact ⟨e.timestamp, e.encode, h.timestamp, decode_encode h e.timestamp⟩
  · rintro ⟨now, text, hnow, hdecode⟩
    exact (received_of_decode hnow hdecode).faithful hfloatFree

/-- **Which times come in frames.** They are the moments there are, leap seconds and years of any
length among them. -/
theorem carried_iff_valid {t : Timestamp} : Carried t ↔ t.Valid := by
  constructor
  · rintro ⟨now, text, e, hnow, hdecode, rfl⟩
    exact (received_of_decode hnow hdecode).timestamp
  · intro h
    have hfaithful : Faithful 126 ⟨.ping, .null, t, ""⟩ :=
      ⟨rfl, h, trivial, trivial, Nat.zero_le 126⟩
    exact ⟨t, _, _, h, decode_encode hfaithful t, rfl⟩

/-- **Encoding is injective.** Envelopes have the same text only if they are the same. -/
theorem encode_inj {e e' : Envelope} (h : e.Faithful 126) (h' : e'.Faithful 126) :
    e.encode = e'.encode ↔ e = e' := by
  constructor
  · intro heq
    have hdecode := decode_encode h' e.timestamp
    rw [← heq, decode_encode h] at hdecode
    exact Except.ok.inj hdecode
  · rintro rfl
    rfl

/-- **Decoding undoes encoding.** An envelope with a kind made of a tag, a time that can come in a
frame, any identifier, and a canonical payload without doubles that nests at most 126 deep is
decoded from its text as it was, at whatever moment. Any text that is decoded to an envelope without
doubles is encoded to a text that is decoded to the same envelope and then encoded to the same text.

**Proof sketch.** An envelope of the first kind is one that its text tells in full, and so it is
read back (`decode_encode`). An envelope that has been decoded from any text is of that kind, too
(`received_of_decode`), as its payload is nested no deeper than a reader goes and its time is a
moment. -/
theorem codec :
    (∀ e : Envelope, (∃ tag, e.kind = Kind.ofTag tag) → Carried e.timestamp →
      e.payload.Canonical → e.payload.FloatFree → e.payload.depth ≤ 126 →
      ∀ now, decode now e.encode = .ok e) ∧
    (∀ began text e, began.Valid → decode began text = .ok e → e.payload.FloatFree →
      ∀ now, decode now e.encode = .ok e ∧ (decode now e.encode).map encode = .ok e.encode) := by
  constructor
  · rintro e ⟨tag, htag⟩ htime hcanonical hfloatFree hdepth now
    have hkind : Kind.ofTag e.kind.tag = e.kind := by rw [htag, Kind.tag_ofTag]
    exact decode_encode ⟨hkind, carried_iff_valid.1 htime, hcanonical, hfloatFree, hdepth⟩ now
  · intro began text e hbegan hdecode hfloatFree now
    have hfaithful := (received_of_decode hbegan hdecode).faithful hfloatFree
    have hagain := decode_encode hfaithful now
    exact ⟨hagain, by rw [hagain]; rfl⟩

namespace Sample

/-- The leap second at the end of a year before the first one. -/
def leap : Timestamp :=
  ⟨⟨-43, 12, 31⟩, 23, 59, 60, 120000000⟩

/-- An envelope of an unknown kind, without an identifier, with integers at the limits, with a name
that has no characters and a text that has to be escaped. -/
def reaction : Envelope where
  kind := .other "reaction"
  payload := .object [("", .int (-9223372036854775808)), ("max", .int 18446744073709551615),
    ("nested", .array [.array [], .object [], .text "\"\n/é"])]
  timestamp := leap
  requestId := ""

/-- The same in an array, with other spacing, escapes, order and offset, and with a member twice. -/
def frame : String :=
  "[ \"reaction\", \x7b\"nested\": [[ ], \x7b\x7d, \"\\\"\\n\\/é\"], \"\": 0," ++
    "\"max\": 18446744073709551615, \"\": -9223372036854775808\x7d," ++
    "\"-0042-01-01t04:59:60.12+05:00\"]"

end Sample

set_option maxRecDepth 2000 in
/-- An envelope with a leap second is decoded as it was, and a frame that is written in another way
is encoded to the text of that envelope. -/
theorem codec_reaction :
    Sample.reaction.Faithful 126 ∧ Sample.leap.Valid ∧
    decode Sample.leap Sample.frame = .ok Sample.reaction ∧
    Sample.reaction.encode ≠ Sample.frame ∧
    (∀ now, decode now Sample.reaction.encode = .ok Sample.reaction) ∧
    ∀ now, (decode now Sample.reaction.encode).map encode = .ok Sample.reaction.encode := by
  have hframe : decode Sample.leap Sample.frame = .ok Sample.reaction := rfl
  have hleap : Sample.leap.Valid := by decide
  have h : Sample.reaction.Faithful 126 := (received_of_decode hleap hframe).faithful (by
    simp [Sample.reaction, Json.Value.FloatFree, Json.Value.FloatFreeItems,
      Json.Value.FloatFreeMembers])
  exact ⟨h, hleap, hframe, by decide,
    codec.1 Sample.reaction ⟨"reaction", rfl⟩ (carried_iff_valid.2 hleap) h.canonical
      h.floatFree h.depth,
    fun now => (codec.2 Sample.leap Sample.frame Sample.reaction hleap hframe h.floatFree
      now).2⟩

end Messenger.Envelope
