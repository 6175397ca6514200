import Messenger.Envelope.Reader
import Messenger.Envelope.Writer
import Messenger.Proofs.Json.RoundTrip
import Messenger.Proofs.Timestamp.RoundTrip

set_option relaxedAutoImplicit false
set_option autoImplicit false

/-!
# Written envelopes are read back

An envelope is read from its written form, at whatever moment, exactly if its payload and its time
are. One whose payload holds no doubles and is not too deep is read back as it was. A list of
envelopes is read all or nothing; the array around them costs one level.

## Main definitions

* `Messenger.Envelope.Faithful`: the envelope is one that its written form tells.
* `Messenger.Envelope.reread?`: what is made of a written envelope.
* `Messenger.Sample.note`: envelopes to look at.

## Main results

* `Messenger.Envelope.settles_write`: what is made of a written envelope does not depend on what
  follows it.
* `Messenger.Envelope.reader_write`: a written envelope is read back.
* `Messenger.Envelope.toOption_decodeAll`: a written list is read if each of its envelopes is.
* `Messenger.Envelope.decodeAll_encodeAll`: a written list is read back.
-/

namespace Messenger.Envelope

open Json (Ends Opens ReadsBack commaLed quote readText_name)
open Json.Value (commaSeparated)

/-- What the written form of an envelope tells in full: its kind is the one that its tag stands for,
its time is a moment, and its payload is a value without doubles that nests at most `levels`
deep. -/
structure Faithful (levels : Nat) (e : Envelope) : Prop where
  kind : Kind.ofTag e.kind.tag = e.kind
  timestamp : e.timestamp.Valid
  canonical : e.payload.Canonical
  floatFree : e.payload.FloatFree
  depth : e.payload.depth ≤ levels

/-! ### Members -/

/-- A written text is read back where one is asked for. -/
lemma readString_quote (expected text : String) (rest : List Char) :
    Json.readString expected (quote text.toList ++ rest) = .ok (text, rest) := by
  show Json.readString expected ('"' :: (text.toList.flatMap Json.escape ++ ['"'] ++ rest)) = _
  rw [Json.readString, Json.skipSpace_cons (by decide)]
  simp only [readText_name, Except.map, String.ofList_toList]

/-- A member that may occur once is read if it has not occurred. -/
lemma readOnce_none {α : Type} (name : String) (read : Json.Reader α) (s : List Char) :
    readOnce name none read (':' :: s) = read s := rfl

/-- The kind is read from its tag. -/
lemma readMember_type {depth : Nat} {d : Draft} (h : d.kind = none) (kind : Kind)
    (rest : List Char) :
    d.readMember depth "type" (':' :: (quote kind.tag.toList ++ rest)) =
      .ok ({ d with kind := some (Kind.ofTag kind.tag) }, rest) := by
  rw [Draft.readMember, h, readOnce_none, readKind, readString_quote]
  rfl

/-- The payload is read as a value is. -/
lemma readMember_payload {depth : Nat} {d : Draft} (h : d.payload = none) (s : List Char) :
    d.readMember depth "payload" (':' :: s) =
      (Json.readValue depth s).map fun r => ({ d with payload := some r.1 }, r.2) := by
  rw [Draft.readMember, h, readOnce_none]
  rfl

/-- The time is read as its text is. -/
lemma readMember_timestamp {depth : Nat} {d : Draft} (h : d.timestamp = none) (t : Timestamp)
    (rest : List Char) :
    d.readMember depth "timestamp" (':' :: (quote t.render.toList ++ rest)) =
      match Timestamp.read t.render.toList with
      | .ok t => .ok ({ d with timestamp := some t }, rest)
      | .error e => .error (.badContent e.message) := by
  rw [Draft.readMember, h, readOnce_none]
  simp only [readTimestamp, readString_quote]
  cases Timestamp.read t.render.toList <;> rfl

/-- The identifier is read back. -/
lemma readMember_requestId {depth : Nat} {d : Draft} (h : d.requestId = none) (id : String)
    (rest : List Char) :
    d.readMember depth "request_id" (':' :: (quote id.toList ++ rest)) =
      .ok ({ d with requestId := some id }, rest) := by
  rw [Draft.readMember, h, readOnce_none, readRequestId, readString_quote]
  rfl

/-! ### Objects -/

/-- The first member of an object is read, and then the others. -/
lemma readMembers_first (depth turns : Nat) (d : Draft) (name : String) (s : List Char) :
    Draft.readMembers depth (turns + 1) true d (quote name.toList ++ ':' :: s) =
      (d.readMember depth name (':' :: s)).bind fun r =>
        Draft.readMembers depth turns false r.1 r.2 := by
  have hnext : Json.nextMember true (quote name.toList ++ ':' :: s) =
      .ok (some (name.toList.flatMap Json.escape ++ ['"'] ++ ':' :: s)) := rfl
  simp only [Draft.readMembers, hnext, readText_name, String.ofList_toList]
  cases d.readMember depth name (':' :: s) <;> rfl

/-- A member behind a comma is read, and then the others. -/
lemma readMembers_comma (depth turns : Nat) (d : Draft) (name : String) (s : List Char) :
    Draft.readMembers depth (turns + 1) false d (',' :: (quote name.toList ++ ':' :: s)) =
      (d.readMember depth name (':' :: s)).bind fun r =>
        Draft.readMembers depth turns false r.1 r.2 := by
  have hnext : Json.nextMember false (',' :: (quote name.toList ++ ':' :: s)) =
      .ok (some (name.toList.flatMap Json.escape ++ ['"'] ++ ':' :: s)) := rfl
  simp only [Draft.readMembers, hnext, readText_name, String.ofList_toList]
  cases d.readMember depth name (':' :: s) <;> rfl

/-- A closing brace ends the members. -/
lemma readMembers_brace (depth turns : Nat) (d : Draft) (rest : List Char) :
    Draft.readMembers depth (turns + 1) false d ('}' :: rest) = .ok (d, '}' :: rest) := rfl

/-- The identifier, if there is one, is the last member. -/
lemma readMembers_requestId {depth turns : Nat} {d : Draft} (h : d.requestId = none) (id : String)
    (rest : List Char) :
    Draft.readMembers depth (turns + 2) false d
        (commaLed (if id = "" then [] else [textMember "request_id" id]) ++ '}' :: rest) =
      .ok ({ d with requestId := if id = "" then none else some id }, '}' :: rest) := by
  by_cases hid : id = ""
  · obtain ⟨kind, payload, timestamp, requestId⟩ := d
    obtain rfl : requestId = none := h
    simp only [hid, if_true]
    exact readMembers_brace depth (turns + 1) _ rest
  · have hsplit : commaLed [textMember "request_id" id] ++ '}' :: rest =
        ',' :: (quote "request_id".toList ++ ':' :: (quote id.toList ++ '}' :: rest)) := by
      simp [commaLed, textMember]
    simp only [hid, if_false]
    rw [hsplit, readMembers_comma, readMember_requestId h id]
    exact readMembers_brace depth turns _ rest

/-- Behind the payload come the time, and the identifier if there is one. -/
lemma readMembers_timestamp {depth turns : Nat} {d : Draft} (ht : d.timestamp = none)
    (hid : d.requestId = none) (t : Timestamp) (id : String) (rest : List Char) :
    Draft.readMembers depth (turns + 3) false d
        (',' :: (quote "timestamp".toList ++ ':' :: (quote t.render.toList ++
          (commaLed (if id = "" then [] else [textMember "request_id" id]) ++ '}' :: rest)))) =
      match Timestamp.read t.render.toList with
      | .ok t =>
        .ok ({ d with timestamp := some t, requestId := if id = "" then none else some id },
          '}' :: rest)
      | .error e => .error (.badContent e.message) := by
  rw [readMembers_comma, readMember_timestamp ht]
  cases Timestamp.read t.render.toList with
  | error e => rfl
  | ok t' => exact readMembers_requestId (d := { d with timestamp := some t' }) hid id rest

/-- A written envelope is an object that begins with its kind. -/
lemma write_eq (e : Envelope) (rest : List Char) :
    e.write ++ rest = '{' :: (quote "type".toList ++ ':' :: (quote e.kind.tag.toList ++
      ',' :: (quote "payload".toList ++ ':' :: (e.payload.write ++
        ',' :: (quote "timestamp".toList ++ ':' :: (quote e.timestamp.render.toList ++
          (commaLed (if e.requestId = "" then [] else [textMember "request_id" e.requestId]) ++
            '}' :: rest))))))) := by
  rw [write, writeMembers, Json.commaSeparated_cons]
  simp [commaLed, textMember]

/-- What is made of a written envelope, if the reader may go `levels` deep. -/
def reread? (now : Timestamp) (levels : Nat) (e : Envelope) : Option Envelope :=
  Json.outcome? (reader now levels) e.write

/-- **An envelope and what follows it are apart.** What is made of a written envelope does not
depend on what follows it: an envelope with what is made of its payload and of its time, if
something is made of them.

**Proof sketch.** Member by member, in the order in which they were written. There are at most four
of them, and the reader has more turns than that. -/
theorem settles_write (now : Timestamp) (levels : Nat) (e : Envelope) :
    e.reread? now (levels + 1) =
        ((Json.reread? levels e.payload).bind fun v =>
          (Timestamp.read e.timestamp.render.toList).toOption.map fun t =>
            ⟨Kind.ofTag e.kind.tag, v, t, e.requestId⟩) ∧
      Json.Settles (reader now (levels + 1)) e.write := by
  apply Json.settles_of_forall
  intro rest _
  rw [write_eq]
  set afterPayload := quote "timestamp".toList ++ ':' :: (quote e.timestamp.render.toList ++
    (commaLed (if e.requestId = "" then [] else [textMember "request_id" e.requestId]) ++
      '}' :: rest)) with hpayload
  set afterKind := ',' :: (quote "payload".toList ++ ':' :: (e.payload.write ++
    ',' :: afterPayload)) with hkind
  obtain ⟨turns, hturns⟩ : ∃ turns, (quote "type".toList ++ ':' :: (quote e.kind.tag.toList ++
      afterKind)).length + 1 = turns + 5 := by
    refine ⟨(quote "type".toList ++ ':' :: (quote e.kind.tag.toList ++ afterKind)).length - 4, ?_⟩
    have hquote : (quote "type".toList).length = 6 := by decide
    rw [List.length_append, hquote]
    omega
  have hreader : reader now (levels + 1) ('{' :: (quote "type".toList ++ ':' ::
      (quote e.kind.tag.toList ++ afterKind))) =
      readObject now levels (quote "type".toList ++ ':' :: (quote e.kind.tag.toList ++
        afterKind)) := by
    simp only [reader, Json.skipSpace_cons (show Json.isSpace '{' = false by decide)]
  rw [hreader, readObject, hturns, readMembers_first, readMember_type rfl e.kind afterKind]
  dsimp only [Except.bind]
  rw [hkind, readMembers_comma, readMember_payload rfl]
  -- Whether an envelope is read is up to the payload, and then to the moment.
  rcases (Json.settles_write levels e.payload).cases (Json.ends_comma afterPayload) with
    ⟨v, hv, hread⟩ | ⟨hnone, err, hread⟩
  · rw [hread, show Json.reread? levels e.payload = some v from hv]
    dsimp only [Except.map, Except.bind]
    rw [hpayload, readMembers_timestamp rfl rfl]
    cases Timestamp.read e.timestamp.render.toList with
    | error err => rfl
    | ok t =>
      have hid : (if e.requestId = "" then none else some e.requestId).getD "" = e.requestId := by
        split
        · next hempty => rw [hempty]; rfl
        · rfl
      show (Except.map _ (Json.endObject ('}' :: rest))).toOption = _
      rw [hid]
      rfl
  · rw [hread, show Json.reread? levels e.payload = none from hnone]
    rfl

/-- What is made of a written envelope without doubles is the envelope. -/
lemma Faithful.reread?_eq_some {levels : Nat} {e : Envelope} (h : e.Faithful levels)
    (now : Timestamp) : e.reread? now (levels + 1) = some e := by
  rw [(settles_write now levels e).1, Json.reread?_eq_some h.depth h.canonical h.floatFree,
    Timestamp.read_render h.timestamp, h.kind]
  rfl

/-- **A written envelope is read back.** The reader must be allowed to go one level deeper than the
payload of the envelope is. -/
theorem reader_write {levels : Nat} {e : Envelope} (h : e.Faithful levels) (now : Timestamp) :
    ReadsBack (reader now (levels + 1)) write e := by
  intro rest hrest
  apply Json.eq_ok_of_toOption
  rw [(settles_write now levels e).2 rest hrest]
  exact congrArg (Option.map (·, rest)) (h.reread?_eq_some now)

/-- A written envelope begins as a value does. -/
lemma opens_write (e : Envelope) : Opens e.write :=
  ⟨'{', _, rfl, by decide⟩

/-! ### Whole texts -/

/-- An envelope that has been encoded is decoded as it was, at whatever moment. -/
theorem decode_encode {e : Envelope} (h : e.Faithful 126) (now : Timestamp) :
    decode now e.encode = .ok e := by
  have hread := reader_write h now [] Json.ends_nil
  rw [List.append_nil] at hread
  have hdecode : Json.decode (reader now Json.depthLimit) e.encode = .ok e := by
    rw [Json.decode, encode, String.toList_ofList, Json.depthLimit, hread]
    rfl
  rw [decode, hdecode]

/-- **All or none.** Envelopes that have been encoded together are decoded if each of them is, and
otherwise none is.

**Proof sketch.** Each written envelope settles what is made of it (`settles_write`), so the items
of the array are read one by one, and the first that is refused refuses them all. -/
theorem toOption_decodeAll (now : Timestamp) (es : List Envelope) :
    (decodeAll now (encodeAll es)).toOption = es.mapM (reread? now 126) := by
  have hopens : ∀ w ∈ es.map write, Json.Opens w := by simpa using fun e _ => opens_write e
  have hsettles : ∀ w ∈ es.map write, Json.Settles (reader now 126) w := by
    simpa using fun e _ => (settles_write now 125 e).2
  have hread := Json.toOption_readItems hopens hsettles []
  rw [List.mapM_map] at hread
  have hitems : Json.readArray (reader now (Json.depthLimit - 1)) (encodeAll es).toList =
      Json.readItems (reader now 126) (commaSeparated (es.map write) ++ [']']) := by
    rw [encodeAll, String.toList_ofList, Json.readArray, List.cons_append,
      Json.skipSpace_cons (by decide)]
    rfl
  rw [decodeAll, Json.decode, hitems]
  show _ = es.mapM (Json.outcome? (reader now 126) ∘ write)
  cases hmade : es.mapM (Json.outcome? (reader now 126) ∘ write) with
  | some xs =>
    rw [hmade] at hread
    rw [Json.eq_ok_of_toOption hread]
    rfl
  | none =>
    rw [hmade] at hread
    cases hfail : Json.readItems (reader now 126) (commaSeparated (es.map write) ++ [']']) with
    | error e => rfl
    | ok r =>
      rw [hfail] at hread
      cases hread

/-- **A written list is read back.** Envelopes that have been encoded together are decoded as they
were, at whatever moment. -/
theorem decodeAll_encodeAll {es : List Envelope} (h : ∀ e ∈ es, e.Faithful 125)
    (now : Timestamp) : decodeAll now (encodeAll es) = .ok es := by
  apply Json.eq_ok_of_toOption
  rw [toOption_decodeAll, Json.mapM_eq_some fun e he => (h e he).reread?_eq_some now]

end Messenger.Envelope

/-! ### Envelopes to look at -/

namespace Messenger.Sample

/-- The start of the year 1970. -/
def epoch : Timestamp := ⟨⟨1970, 1, 1⟩, 0, 0, 0, 0⟩

/-- A message that is nothing but a number. -/
def note (n : Nat) : Envelope :=
  ⟨.sendMessage, .int n, epoch, ""⟩

/-- The start of the year is a moment. -/
lemma valid_epoch : epoch.Valid := by decide

/-- A note can be told. -/
lemma faithful_note {n : Nat} (h : n < Text.limit64) (levels : Nat) :
    (note n).Faithful levels := by
  have hrange : (n : Int) < 0x10000000000000000 := Int.ofNat_lt.2 h
  exact ⟨rfl, valid_epoch, ⟨by omega, hrange⟩, trivial, Nat.zero_le _⟩

end Messenger.Sample
