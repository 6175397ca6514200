import Messenger.Proofs.Envelope.Reading
import Messenger.Proofs.Json.Settled

set_option relaxedAutoImplicit false
set_option autoImplicit false

/-!
# What the members of a frame make

A frame is an object or an array, with blanks where the format allows them. What is made of it
depends only on what its members, or its items, are: on the texts that their names denote and on
their values. The members are gathered one after the other, each into the place that its name has.

## Main definitions

* `Messenger.Envelope.ObjectFrame`, `Messenger.Envelope.ArrayFrame`: a frame of either form.
* `Messenger.Envelope.Content`: a member as far as it matters.
* `Messenger.Envelope.Draft.take?`: the members read so far, together with one more.
* `Messenger.Envelope.Draft.complete?`: the members that values without names make.

## Main results

* `Messenger.Envelope.ObjectFrame.toOption_decode`: what is made of an object.
* `Messenger.Envelope.ArrayFrame.toOption_decode`: what is made of an array.
-/

namespace Messenger.Envelope

open Json (Blank Ends Entry Member Opens Quotable Settles WellFormed commaLed outcome?)
open Json.Value (commaSeparated)

/-! ### Frames -/

/-- A frame that is an object, with blanks around it and around its members. -/
structure ObjectFrame where
  lead : List Char
  inner : List Char
  members : List Member
  trail : List Char
  lead_blank : Blank lead
  inner_blank : Blank inner
  trail_blank : Blank trail
  spaced : ∀ m ∈ members, m.Spaced
  quotable : ∀ m ∈ members, Quotable m.name
  wellFormed : ∀ m ∈ members, WellFormed m.value.core

/-- The text of an object. -/
def ObjectFrame.text (o : ObjectFrame) : String :=
  String.ofList (o.lead ++ (Json.objectText o.inner o.members ++ o.trail))

/-- A frame that is an array, with blanks around it and around its items. -/
structure ArrayFrame where
  lead : List Char
  inner : List Char
  items : List Entry
  trail : List Char
  lead_blank : Blank lead
  inner_blank : Blank inner
  trail_blank : Blank trail
  spaced : ∀ e ∈ items, e.Spaced
  wellFormed : ∀ e ∈ items, WellFormed e.core

/-- The text of an array. -/
def ArrayFrame.text (a : ArrayFrame) : String :=
  String.ofList (a.lead ++ (Json.arrayText a.inner a.items ++ a.trail))

/-- The values of an array. -/
def ArrayFrame.values (a : ArrayFrame) : List (List Char) :=
  a.items.map Entry.core

/-- A member as far as it matters: the text that its name denotes, if it denotes one, and its
value. -/
structure Content where
  name : Option String
  value : List Char
  deriving DecidableEq

/-- What a member tells. -/
def told (m : Member) : Content :=
  ⟨(outcome? Json.readText m.label).map String.ofList, m.value.core⟩

/-- What the members of an object tell. -/
def ObjectFrame.contents (o : ObjectFrame) : List Content :=
  o.members.map told

/-! ### Gathering members -/

/-- The value of a member that may occur once only. -/
def once {α : Type} (old : Option α) (read : Json.Reader α) (w : List Char) : Option α :=
  if old.isSome then none else outcome? read w

/-- The members read so far, together with one of the given name. A member of a name that has no
place is left out. -/
def Draft.put? (depth : Nat) (d : Draft) (name : String) (w : List Char) : Option Draft :=
  match name with
  | "type" => (once d.kind readKind w).map fun x => { d with kind := some x }
  | "payload" => (once d.payload (readPayload depth) w).map fun x => { d with payload := some x }
  | "timestamp" => (once d.timestamp readTimestamp w).map fun x => { d with timestamp := some x }
  | "request_id" => (once d.requestId readRequestId w).map fun x => { d with requestId := some x }
  | _ => some d

/-- The members read so far, together with one more. A name that denotes no text is refused. -/
def Draft.take? (depth : Nat) (d : Draft) (c : Content) : Option Draft :=
  c.name.bind fun name => d.put? depth name c.value

/-- The members of an envelope that the given ones make, one after the other. -/
def gather? (depth : Nat) (contents : List Content) : Option Draft :=
  contents.foldlM (Draft.take? depth) .empty

/-! ### Readers of members -/

/-- A reader to which blanks in front do not matter, and that makes the same of a value whatever
follows it. -/
structure Regular {α : Type} (read : Json.Reader α) : Prop where
  blank : ∀ {blank : List Char}, Blank blank → ∀ s, read (blank ++ s) = read s
  settles : ∀ {w : List Char}, WellFormed w → Settles read w

/-- What such a reader makes of an entry is made of what stands in it. -/
lemma Regular.upTo {α : Type} {read : Json.Reader α} (h : Regular read) {e : Entry}
    (hbefore : Blank e.before) (hcore : WellFormed e.core) :
    outcome? read e.upTo = outcome? read e.core ∧ Settles read e.upTo :=
  (h.settles hcore).upTo fun s => h.blank hbefore s

/-- Such a reader takes a value that something follows, or refuses it. -/
lemma Regular.toOption_read {α : Type} {read : Json.Reader α} (h : Regular read) {e : Entry}
    (hbefore : Blank e.before) (hcore : WellFormed e.core) {rest : List Char} (hrest : Ends rest) :
    (read (e.upTo ++ rest)).toOption = (outcome? read e.core).map (·, rest) := by
  obtain ⟨hmade, hsettles⟩ := h.upTo hbefore hcore
  rw [hsettles rest hrest, hmade]

/-- Texts are read by such a reader. -/
lemma regular_readString (expected : String) : Regular (Json.readString expected) :=
  ⟨fun h s => Json.readString_blank h expected s, fun h => h.settles_readString expected⟩

/-- So are kinds. -/
lemma regular_readKind : Regular readKind := by
  refine ⟨fun h s => ?_, fun h => ?_⟩
  · simp only [readKind, Json.readString_blank h]
  · exact ((h.settles_readString aString).transfer Kind.ofTag fun _ _ => rfl).2

/-- So are identifiers. -/
lemma regular_readRequestId : Regular readRequestId :=
  regular_readString aString

/-- So are payloads. -/
lemma regular_readPayload (depth : Nat) : Regular (readPayload depth) :=
  ⟨fun h s => Json.readValue_blank h depth s, fun h => h.settles_readValue depth⟩

/-- So are timestamps. -/
lemma regular_readTimestamp : Regular readTimestamp := by
  refine ⟨fun h s => ?_, fun {w} h => ?_⟩
  · simp only [readTimestamp, Json.readString_blank h]
  · let expected := "an RFC 3339 formatted date and time string"
    refine (Json.settles_of_forall (r := (outcome? (Json.readString expected) w).bind fun text =>
      (Timestamp.read text.toList).toOption) fun rest hrest => ?_).2
    rcases (h.settles_readString expected).cases hrest with ⟨text, hmade, hread⟩ | ⟨hmade, e, hread⟩
    · simp only [readTimestamp, expected, hread, hmade, Option.bind_some] at hread hmade ⊢
      cases Timestamp.read text.toList <;> rfl
    · simp only [readTimestamp, expected, hread, hmade] at hread hmade ⊢
      rfl

/-! ### Objects -/

/-- A member that may occur once is read if it has not occurred and its value is read. -/
lemma toOption_readOnce {α : Type} {read : Json.Reader α} (h : Regular read) (name : String)
    (old : Option α) {between : List Char} (hbetween : Blank between) {e : Entry}
    (hbefore : Blank e.before) (hcore : WellFormed e.core) {rest : List Char} (hrest : Ends rest) :
    (readOnce name old read (between ++ ':' :: (e.upTo ++ rest))).toOption =
      (once old read e.core).map (·, rest) := by
  cases old with
  | some x => rfl
  | none =>
    simp only [readOnce, Json.expectColon_colon hbetween, h.toOption_read hbefore hcore hrest, once,
      Option.isSome_none, Bool.false_eq_true, if_false]

/-- A member is read behind its name.

**Proof sketch.** By its name. A value that has no place is passed over. -/
lemma toOption_readMember (depth : Nat) (d : Draft) (name : String) {between : List Char}
    (hbetween : Blank between) {e : Entry} (hbefore : Blank e.before) (hcore : WellFormed e.core)
    {rest : List Char} (hrest : Ends rest) :
    (d.readMember depth name (between ++ ':' :: (e.upTo ++ rest))).toOption =
      (d.put? depth name e.core).map (·, rest) := by
  have hplace : ∀ {α : Type} {read : Json.Reader α} (name : String) (old : Option α)
      (put : α → Draft), Regular read →
      ((readOnce name old read (between ++ ':' :: (e.upTo ++ rest))).map
        fun r => (put r.1, r.2)).toOption =
      ((once old read e.core).map put).map (·, rest) := by
    intro α read name old put h
    rw [Json.toOption_map, toOption_readOnce h name old hbetween hbefore hcore hrest]
    cases once old read e.core <;> rfl
  unfold Draft.readMember Draft.put?
  split
  · exact hplace "type" d.kind (fun x => { d with kind := some x }) regular_readKind
  · exact hplace "payload" d.payload (fun x => { d with payload := some x })
      (regular_readPayload depth)
  · exact hplace "timestamp" d.timestamp (fun x => { d with timestamp := some x })
      regular_readTimestamp
  · exact hplace "request_id" d.requestId (fun x => { d with requestId := some x })
      regular_readRequestId
  · have hskip : Json.skipValue (e.upTo ++ rest) = .ok rest := by
      rw [Entry.upTo, List.append_assoc]
      exact Json.skipValue_wellFormed hbefore hcore hrest
    simp only [Json.expectColon_colon hbetween, hskip]
    rfl

/-- A member is read, name, colon and value, or refused.

**Proof sketch.** By whether the name can be read. If so the member is read as one of that name, and
otherwise it is refused, as a member without a name is. -/
lemma toOption_readMember_opened (depth : Nat) (d : Draft) {m : Member} (hspaced : m.Spaced)
    (hname : Quotable m.name) (hcore : WellFormed m.value.core) {rest : List Char}
    (hrest : Ends rest) :
    ((Json.readText (m.opened ++ rest)).bind fun r =>
        d.readMember depth (String.ofList r.1) r.2).toOption =
      (d.take? depth (told m)).map (·, m.value.after ++ rest) := by
  have hsplit : m.opened ++ rest =
      m.label ++ (m.between ++ ':' :: (m.value.upTo ++ (m.value.after ++ rest))) := by
    simp [Member.opened, Entry.text]
  have hcolon : Ends (m.between ++ ':' :: (m.value.upTo ++ (m.value.after ++ rest))) :=
    Json.ends_blank hspaced.between (Json.ends_cons (by decide) _)
  rw [hsplit]
  rcases (Json.settles_readText hname).cases hcolon with ⟨name, hmade, hread⟩ | ⟨hmade, e, hread⟩
  · have htold : told m = ⟨some (String.ofList name), m.value.core⟩ := by
      rw [told, Member.label, hmade]
      rfl
    rw [Member.label, hread, htold]
    exact toOption_readMember depth d (String.ofList name) hspaced.between hspaced.value.before
      hcore (Json.ends_blank hspaced.value.after hrest)
  · have htold : told m = ⟨none, m.value.core⟩ := by
      rw [told, Member.label, hmade]
      rfl
    rw [Member.label, hread, htold]
    rfl

/-- A turn reads a member, and the next ones read the others. -/
lemma readMembers_succ {depth turns : Nat} {first : Bool} {d : Draft} {s s' : List Char}
    (hnext : Json.nextMember first s = .ok (some s')) :
    Draft.readMembers depth (turns + 1) first d s =
      ((Json.readText s').bind fun r => d.readMember depth (String.ofList r.1) r.2).bind fun r =>
        Draft.readMembers depth turns false r.1 r.2 := by
  simp only [Draft.readMembers, hnext]
  cases Json.readText s' with
  | error e => rfl
  | ok r =>
    cases hmember : d.readMember depth (String.ofList r.1) r.2 <;> simp [Except.bind, hmember]

/-- What is made of a step and what follows it, if both go well. -/
lemma toOption_bind_of_eq {ε α β : Type} {r : Except ε (α × List Char)} {made : Option α}
    {rest : List Char} (h : r.toOption = made.map (·, rest)) (f : α × List Char → Except ε β) :
    (r.bind f).toOption = made.bind fun x => (f (x, rest)).toOption := by
  cases r with
  | error e =>
    cases made with
    | none => rfl
    | some x => cases h
  | ok y =>
    cases made with
    | none => cases h
    | some x =>
      obtain rfl := Option.some.inj h
      rfl

/-- The members of an object behind the first are gathered up to its brace.

**Proof sketch.** Induction on the members. A turn passes over the comma and takes one member, or
refuses it; the last turn finds the brace. -/
lemma toOption_readMembers_comma (depth : Nat) {members : List Member}
    (hspaced : ∀ m ∈ members, m.Spaced) (hname : ∀ m ∈ members, Quotable m.name)
    (hcore : ∀ m ∈ members, WellFormed m.value.core) {blank : List Char} (hblank : Blank blank) :
    ∃ blank', Blank blank' ∧ ∀ (d : Draft) (turns : Nat), members.length < turns →
      ∀ rest : List Char,
        (Draft.readMembers depth turns false d
            (blank ++ (commaLed (members.map Member.text) ++ '}' :: rest))).toOption =
          ((members.map told).foldlM (Draft.take? depth) d).map (·, blank' ++ '}' :: rest) := by
  induction members generalizing blank with
  | nil =>
    refine ⟨blank, hblank, fun d turns hturns rest => ?_⟩
    obtain ⟨turns, rfl⟩ : ∃ k, turns = k + 1 := ⟨turns - 1, by simp at hturns; omega⟩
    simp only [List.map_nil, Json.commaLed, List.flatMap_nil, List.nil_append, Draft.readMembers,
      Json.nextMember_brace hblank]
    rfl
  | cons m members ih =>
    have hm := hspaced m (by simp)
    obtain ⟨blank', hblank', hread⟩ := ih (fun y hy => hspaced y (by simp [hy]))
      (fun y hy => hname y (by simp [hy])) (fun y hy => hcore y (by simp [hy])) hm.value.after
    refine ⟨blank', hblank', fun d turns hturns rest => ?_⟩
    obtain ⟨turns, rfl⟩ : ∃ k, turns = k + 1 := ⟨turns - 1, by simp at hturns; omega⟩
    set left := commaLed (members.map Member.text) ++ '}' :: rest with hleft
    have hsplit : commaLed ((m :: members).map Member.text) ++ '}' :: rest =
        ',' :: (m.before ++ '"' :: (m.opened ++ left)) := by
      simp [Json.commaLed, Member.text, hleft]
    have hends : Ends left := Json.ends_commaLed _ (Json.ends_brace rest)
    have hmember := toOption_readMember_opened depth d hm (hname m (by simp)) (hcore m (by simp))
      hends
    rw [hsplit, readMembers_succ (Json.nextMember_comma hblank hm.before _),
      toOption_bind_of_eq hmember, List.map_cons, List.foldlM_cons]
    have hturns' : members.length < turns := by simp at hturns; omega
    cases hmade : d.take? depth (told m) with
    | none => rfl
    | some d' => exact hread d' turns hturns' rest

/-- Once the members have been gathered up to the brace, they are finished.

**Proof sketch.** If nothing is gathered nothing is finished. If a draft is, the brace is found
behind the blanks. -/
lemma toOption_readObject_of_gathered (now : Timestamp) {depth : Nat} {s blank rest : List Char}
    (hblank : Blank blank) {made : Option Draft}
    (h : (Draft.readMembers depth (s.length + 1) true .empty s).toOption =
      made.map (·, blank ++ '}' :: rest)) :
    (readObject now depth s).toOption =
      (made.bind fun d => (d.finish now).toOption).map (·, rest) := by
  unfold readObject
  cases made with
  | none =>
    split
    · rfl
    · next hread =>
      rw [hread] at h
      cases h
  | some d =>
    rw [Json.eq_ok_of_toOption h]
    simp only [Option.bind_some]
    cases d.finish now with
    | error e => rfl
    | ok e =>
      simp only [Json.endObject_brace hblank]
      rfl

/-- What is made of the members of an object is what they make one after the other, finished when
the brace has been reached.

**Proof sketch.** Without members the brace comes first. Otherwise the first member is read
(`toOption_readMember_opened`), and those behind commas one after the other
(`toOption_readMembers_comma`), with turns enough for the length of the text. -/
lemma toOption_readObject (now : Timestamp) (depth : Nat) {inner : List Char}
    (hinner : Blank inner) {members : List Member} (hspaced : ∀ m ∈ members, m.Spaced)
    (hname : ∀ m ∈ members, Quotable m.name) (hcore : ∀ m ∈ members, WellFormed m.value.core)
    (rest : List Char) :
    (readObject now depth
        (inner ++ (commaSeparated (members.map Member.text) ++ '}' :: rest))).toOption =
      ((gather? depth (members.map told)).bind fun d => (d.finish now).toOption).map
        (·, rest) := by
  cases members with
  | nil =>
    refine toOption_readObject_of_gathered now hinner ?_
    show (Draft.readMembers depth _ true .empty (inner ++ '}' :: rest)).toOption = _
    simp only [Draft.readMembers, Json.nextMember_brace hinner]
    rfl
  | cons m members =>
    have hm := hspaced m (by simp)
    obtain ⟨blank', hblank', hread⟩ := toOption_readMembers_comma depth
      (fun y hy => hspaced y (List.mem_cons_of_mem _ hy)) (fun y hy => hname y (by simp [hy]))
      (fun y hy => hcore y (by simp [hy])) hm.value.after
    refine toOption_readObject_of_gathered now hblank' ?_
    set left := commaLed (members.map Member.text) ++ '}' :: rest with hleft
    have hsplit : inner ++ (commaSeparated ((m :: members).map Member.text) ++ '}' :: rest) =
        inner ++ m.before ++ '"' :: (m.opened ++ left) := by
      rw [List.map_cons, Json.commaSeparated_cons]
      simp [Member.text, hleft]
    have hends : Ends left := Json.ends_commaLed _ (Json.ends_brace rest)
    have hlen := Json.length_le_length_commaLed (members.map Member.text)
    have hmember := toOption_readMember_opened depth .empty hm (hname m (by simp))
      (hcore m (by simp)) hends
    rw [hsplit, readMembers_succ (Json.nextMember_first (hinner.append hm.before) _),
      toOption_bind_of_eq hmember, gather?, List.map_cons, List.foldlM_cons]
    cases hmade : Draft.empty.take? depth (told m) with
    | none => rfl
    | some d' => exact hread d' _ (by simp [hleft] at hlen ⊢; omega) rest

/-! ### Arrays -/

/-- The text of an array behind its first item, or behind any other one. -/
def tailText (first : Bool) (blank : List Char) (items : List Entry) (rest : List Char) :
    List Char :=
  blank ++ ((if first then commaSeparated (items.map Entry.text)
    else commaLed (items.map Entry.text)) ++ ']' :: rest)

/-- An item of an array is read, if there is one more.

**Proof sketch.** The first item stands behind blanks, all others behind a comma. Up to the core of
the item both are passed over, and a regular reader makes of the core the same whatever comes behind
it. -/
lemma toOption_readNext {α : Type} {read : Json.Reader α} (h : Regular read) (first : Bool)
    {blank : List Char} (hblank : Blank blank) {e : Entry} (hspaced : e.Spaced)
    (hcore : WellFormed e.core) (items : List Entry) (rest : List Char) :
    (readNext first read (tailText first blank (e :: items) rest)).toOption =
      (outcome? read e.core).map fun x => (some x, tailText false e.after items rest) := by
  have hends : Ends (tailText false e.after items rest) :=
    Json.ends_blank hspaced.after (Json.ends_commaLed _ (Json.ends_bracket rest))
  have hread := (h.settles hcore) (tailText false e.after items rest) hends
  have hnext : Json.nextItem first (tailText first blank (e :: items) rest) =
      .ok (some (e.core ++ tailText false e.after items rest)) := by
    cases first with
    | true =>
      have hsplit : tailText true blank (e :: items) rest =
          blank ++ e.before ++ (e.core ++ tailText false e.after items rest) := by
        rw [tailText, if_pos rfl, List.map_cons, Json.commaSeparated_cons]
        simp [tailText, Entry.text, Entry.upTo]
      rw [hsplit]
      exact Json.nextItem_first (hblank.append hspaced.before) hcore.opens _
    | false =>
      have hsplit : tailText false blank (e :: items) rest =
          blank ++ ',' :: (e.before ++ (e.core ++ tailText false e.after items rest)) := by
        simp [tailText, Json.commaLed, Entry.text, Entry.upTo]
      rw [hsplit]
      exact Json.nextItem_comma hblank hspaced.before hcore.opens _
  simp only [readNext, hnext, Json.toOption_map, hread]
  cases outcome? read e.core <;> rfl

/-- Behind the last item of an array there is none. -/
lemma readNext_bracket {α : Type} (read : Json.Reader α) (first : Bool) {blank : List Char}
    (hblank : Blank blank) (rest : List Char) :
    readNext first read (tailText first blank [] rest) =
      .ok (none, tailText first blank [] rest) := by
  have hsplit : tailText first blank [] rest = blank ++ ']' :: rest := by
    cases first <;> rfl
  rw [hsplit]
  simp only [readNext, Json.nextItem_bracket hblank]

/-- What is made of the rest of an array, if its next item is read. -/
lemma toOption_bind_readNext {α β : Type} {read : Json.Reader α} (h : Regular read) (first : Bool)
    {blank : List Char} (hblank : Blank blank) {e : Entry} (hspaced : e.Spaced)
    (hcore : WellFormed e.core) (items : List Entry) (rest : List Char)
    (f : Option α × List Char → Except Json.Error β) :
    (readNext first read (tailText first blank (e :: items) rest) >>= f).toOption =
      (outcome? read e.core).bind fun x =>
        (f (some x, tailText false e.after items rest)).toOption := by
  have hread := toOption_readNext h first hblank hspaced hcore items rest
  cases hmade : outcome? read e.core with
  | none =>
    rw [hmade] at hread
    cases hnext : readNext first read (tailText first blank (e :: items) rest) with
    | error e => rfl
    | ok r =>
      rw [hnext] at hread
      cases hread
  | some x =>
    rw [hmade] at hread
    rw [Json.eq_ok_of_toOption hread]
    rfl

/-- The envelope that members make together with further values, which belong to the given names in
turn. There may be fewer values than names, but not more. -/
def Draft.complete? (depth : Nat) (now : Timestamp) :
    List String → Draft → List (List Char) → Option Envelope
  | _, d, [] => (d.finish now).toOption
  | [], _, _ :: _ => none
  | name :: names, d, w :: values =>
    (d.put? depth name w).bind fun d => d.complete? depth now names values

/-- Ends an array and makes the envelope. -/
def closeArray (now : Timestamp) (d : Draft) (s : List Char) :
    Except Json.Error (Envelope × List Char) :=
  d.finish now >>= fun e => (Json.endArray s).map (e, ·)

/-- An array is read item by item, up to the first that is missing.

**Proof sketch.** The values are read one by one on both sides, and the cases are how far that goes.
Where a value is missing, or cannot be read, the two sides are the same by computation. -/
lemma readArray_eq_bind (now : Timestamp) (depth : Nat) (s : List Char) :
    readArray now depth s =
      readNext true readKind s >>= fun kind =>
        if kind.1.isNone then .error (.wrongLength 0 "struct Envelope with 4 elements")
        else readNext false (readPayload depth) kind.2 >>= fun payload =>
          if payload.1.isNone then closeArray now ⟨kind.1, none, none, none⟩ payload.2
          else readNext false readTimestamp payload.2 >>= fun timestamp =>
            if timestamp.1.isNone then closeArray now ⟨kind.1, payload.1, none, none⟩ timestamp.2
            else readNext false readRequestId timestamp.2 >>= fun requestId =>
              closeArray now ⟨kind.1, payload.1, timestamp.1, requestId.1⟩ requestId.2 := by
  -- As soon as there is a type, the envelope is made.
  unfold readArray Draft.readItems
  rcases readNext true readKind s with _ | ⟨_ | kind, s₁⟩
  · rfl
  · rfl
  simp only [bind, Except.bind, Option.isNone_some, Bool.false_eq_true, if_false]
  rcases readNext false (readPayload depth) s₁ with _ | ⟨_ | payload, s₂⟩
  · rfl
  · rfl
  simp only [Option.isNone_some, Bool.false_eq_true, if_false]
  rcases readNext false readTimestamp s₂ with _ | ⟨_ | timestamp, s₃⟩
  · rfl
  · rfl
  simp only [Option.isNone_some, Bool.false_eq_true, if_false]
  rcases readNext false readRequestId s₃ with _ | r
  · rfl
  · rfl

variable {depth : Nat} {now : Timestamp} {blank : List Char} {items : List Entry}

/-- An array ends if there are no further values.

**Proof sketch.** By whether there are further items. If not the bracket is found behind the blanks;
if so a comma is. -/
lemma toOption_closeArray (depth : Nat) (hblank : Blank blank) (d : Draft) (rest : List Char) :
    (closeArray now d (tailText false blank items rest)).toOption =
      (d.complete? depth now [] (items.map Entry.core)).map (·, rest) := by
  cases items with
  | nil =>
    have hend : Json.endArray (tailText false blank [] rest) = .ok rest :=
      Json.endArray_bracket hblank rest
    simp only [closeArray, hend, List.map_nil, Draft.complete?]
    cases d.finish now <;> rfl
  | cons e items =>
    obtain ⟨err, hend⟩ : ∃ err, Json.endArray (tailText false blank (e :: items) rest) =
        .error err := by
      have hsplit : ∃ s, tailText false blank (e :: items) rest = blank ++ ',' :: s :=
        ⟨_, by simp [tailText, Json.commaLed]; rfl⟩
      obtain ⟨s, hsplit⟩ := hsplit
      rw [hsplit]
      unfold Json.endArray
      rw [Json.skipSpace_append_cons hblank (by decide)]
      simp only []
      split <;> exact ⟨_, rfl⟩
    simp only [closeArray, hend, List.map_cons, Draft.complete?]
    cases d.finish now <;> rfl

/-- Behind the third value there may be an identifier.

**Proof sketch.** If there is no item the array is closed, and if there is one it is read and the
array is closed behind it (`toOption_closeArray`). -/
lemma toOption_readRequestId (hblank : Blank blank) (hspaced : ∀ e ∈ items, e.Spaced)
    (hcore : ∀ e ∈ items, WellFormed e.core) (kind : Option Kind) (payload : Option Json.Value)
    (timestamp : Option Timestamp) (rest : List Char) :
    (readNext false readRequestId (tailText false blank items rest) >>= fun requestId =>
      closeArray now ⟨kind, payload, timestamp, requestId.1⟩ requestId.2).toOption =
      (Draft.complete? depth now ["request_id"] ⟨kind, payload, timestamp, none⟩
        (items.map Entry.core)).map (·, rest) := by
  cases items with
  | nil =>
    rw [readNext_bracket _ _ hblank]
    exact toOption_closeArray depth hblank _ rest
  | cons e items =>
    have he := hspaced e (by simp)
    rw [toOption_bind_readNext regular_readRequestId false hblank he (hcore e (by simp)),
      List.map_cons, Draft.complete?]
    show _ = (Option.bind (Option.map _ (outcome? readRequestId e.core)) _).map _
    cases outcome? readRequestId e.core with
    | none => rfl
    | some id => exact toOption_closeArray depth he.after _ rest

/-- Behind the second value there may be a timestamp.

**Proof sketch.** If there is no item the array is closed, and if there is one it is read and the
identifier may come next (`toOption_readRequestId`). -/
lemma toOption_readTimestamp (hblank : Blank blank) (hspaced : ∀ e ∈ items, e.Spaced)
    (hcore : ∀ e ∈ items, WellFormed e.core) (kind : Option Kind) (payload : Option Json.Value)
    (rest : List Char) :
    (readNext false readTimestamp (tailText false blank items rest) >>= fun timestamp =>
      if timestamp.1.isNone then closeArray now ⟨kind, payload, none, none⟩ timestamp.2
      else readNext false readRequestId timestamp.2 >>= fun requestId =>
        closeArray now ⟨kind, payload, timestamp.1, requestId.1⟩ requestId.2).toOption =
      (Draft.complete? depth now ["timestamp", "request_id"] ⟨kind, payload, none, none⟩
        (items.map Entry.core)).map (·, rest) := by
  cases items with
  | nil =>
    rw [readNext_bracket _ _ hblank]
    exact toOption_closeArray depth hblank _ rest
  | cons e items =>
    have he := hspaced e (by simp)
    rw [toOption_bind_readNext regular_readTimestamp false hblank he (hcore e (by simp)),
      List.map_cons, Draft.complete?]
    show _ = (Option.bind (Option.map _ (outcome? readTimestamp e.core)) _).map _
    cases outcome? readTimestamp e.core with
    | none => rfl
    | some t =>
      exact toOption_readRequestId he.after (fun y hy => hspaced y (by simp [hy]))
        (fun y hy => hcore y (by simp [hy])) kind payload (some t) rest

/-- Behind the first value there may be a payload.

**Proof sketch.** If there is no item the array is closed, and if there is one it is read and the
timestamp may come next (`toOption_readTimestamp`). -/
lemma toOption_readPayload (hblank : Blank blank) (hspaced : ∀ e ∈ items, e.Spaced)
    (hcore : ∀ e ∈ items, WellFormed e.core) (kind : Option Kind) (rest : List Char) :
    (readNext false (readPayload depth) (tailText false blank items rest) >>= fun payload =>
      if payload.1.isNone then closeArray now ⟨kind, none, none, none⟩ payload.2
      else readNext false readTimestamp payload.2 >>= fun timestamp =>
        if timestamp.1.isNone then closeArray now ⟨kind, payload.1, none, none⟩ timestamp.2
        else readNext false readRequestId timestamp.2 >>= fun requestId =>
          closeArray now ⟨kind, payload.1, timestamp.1, requestId.1⟩ requestId.2).toOption =
      (Draft.complete? depth now ["payload", "timestamp", "request_id"] ⟨kind, none, none, none⟩
        (items.map Entry.core)).map (·, rest) := by
  cases items with
  | nil =>
    rw [readNext_bracket _ _ hblank]
    exact toOption_closeArray depth hblank _ rest
  | cons e items =>
    have he := hspaced e (by simp)
    rw [toOption_bind_readNext (regular_readPayload depth) false hblank he (hcore e (by simp)),
      List.map_cons, Draft.complete?]
    show _ = (Option.bind (Option.map _ (outcome? (readPayload depth) e.core)) _).map _
    cases outcome? (readPayload depth) e.core with
    | none => rfl
    | some p =>
      exact toOption_readTimestamp he.after (fun y hy => hspaced y (by simp [hy]))
        (fun y hy => hcore y (by simp [hy])) kind (some p) rest

/-- The names of the members, in the order in which an array has their values. -/
def names : List String :=
  ["type", "payload", "timestamp", "request_id"]

/-- What is made of an array is what its values make in the order of the names.

**Proof sketch.** An array without items has no type and makes nothing. The first item is read as a
type, and the payload may come next (`toOption_readPayload`). -/
lemma toOption_readArray (now : Timestamp) (depth : Nat) (hblank : Blank blank)
    (hspaced : ∀ e ∈ items, e.Spaced) (hcore : ∀ e ∈ items, WellFormed e.core) (rest : List Char) :
    (readArray now depth
        (blank ++ (commaSeparated (items.map Entry.text) ++ ']' :: rest))).toOption =
      (Draft.complete? depth now names .empty (items.map Entry.core)).map (·, rest) := by
  have htext : blank ++ (commaSeparated (items.map Entry.text) ++ ']' :: rest) =
      tailText true blank items rest := rfl
  rw [htext, readArray_eq_bind]
  cases items with
  | nil =>
    rw [readNext_bracket _ _ hblank]
    rfl
  | cons e items =>
    have he := hspaced e (by simp)
    rw [toOption_bind_readNext regular_readKind true hblank he (hcore e (by simp)),
      List.map_cons, names, Draft.complete?]
    show _ = (Option.bind (Option.map _ (outcome? readKind e.core)) _).map _
    cases outcome? readKind e.core with
    | none => rfl
    | some kind =>
      exact toOption_readPayload he.after (fun y hy => hspaced y (by simp [hy]))
        (fun y hy => hcore y (by simp [hy])) (some kind) rest

/-- The members that values in the order of an array are. -/
def placed (names : List String) (values : List (List Char)) : List Content :=
  List.zipWith (fun name w => ⟨some name, w⟩) names values

/-- Values that are not more than the names make what they make as members of these names.

**Proof sketch.** Induction on the values, the names in step with them. -/
lemma Draft.complete?_eq_placed {names : List String} {values : List (List Char)}
    (h : values.length ≤ names.length) (d : Draft) :
    d.complete? depth now names values =
      ((placed names values).foldlM (Draft.take? depth) d).bind fun d =>
        (d.finish now).toOption := by
  induction names generalizing d values with
  | nil =>
    obtain rfl := List.length_eq_zero_iff.1 (Nat.le_zero.1 h)
    rfl
  | cons name names ih =>
    cases values with
    | nil => rfl
    | cons w values =>
      rw [Draft.complete?, placed, List.zipWith_cons_cons, List.foldlM_cons]
      show _ = Option.bind (Option.bind (d.put? depth name w) _) _
      cases d.put? depth name w with
      | none => rfl
      | some d' => exact ih (Nat.le_of_succ_le_succ h) d'

/-- More values than names make nothing.

**Proof sketch.** Induction on the names. Either a value is refused, or values are left when the
names have run out. -/
lemma Draft.complete?_eq_none {names : List String} {values : List (List Char)}
    (h : names.length < values.length) (d : Draft) :
    d.complete? depth now names values = none := by
  induction names generalizing d values with
  | nil =>
    obtain ⟨w, values, rfl⟩ := List.exists_cons_of_ne_nil (List.ne_nil_of_length_pos h)
    rfl
  | cons name names ih =>
    cases values with
    | nil => cases h
    | cons w values =>
      rw [Draft.complete?]
      cases d.put? depth name w with
      | none => rfl
      | some d' => exact ih (Nat.lt_of_succ_lt_succ h) d'

/-! ### Whole texts -/

/-- What a frame holds is what is made of the text between the blanks around it.

**Proof sketch.** The blanks in front are passed over by the reader, and those behind are all that
is left by it. -/
lemma toOption_decode {w : List Char} {r : Option Envelope}
    (hread : ∀ rest, (reader now Json.depthLimit (w ++ rest)).toOption = r.map (·, rest))
    {lead trail : List Char} (hlead : Blank lead) (htrail : Blank trail) :
    (decode now (String.ofList (lead ++ (w ++ trail)))).toOption = r := by
  have hblank : reader now Json.depthLimit (lead ++ (w ++ trail)) =
      reader now Json.depthLimit (w ++ trail) := by
    simp only [reader, Json.mismatch, Json.skipSpace_append hlead]
  have hend : Json.skipSpace trail = [] := by
    have := Json.skipSpace_append htrail []
    rwa [List.append_nil] at this
  have hmade := hread trail
  unfold decode Json.decode
  rw [String.toList_ofList, hblank]
  cases hs : reader now Json.depthLimit (w ++ trail) with
  | error e =>
    rw [hs] at hmade
    cases r with
    | none => rfl
    | some e => cases hmade
  | ok x =>
    rw [hs] at hmade
    obtain ⟨e, rfl, rfl⟩ := Option.map_eq_some_iff.1 hmade.symm
    simp only [hend, if_true]
    rfl

/-- **What an object makes.** It is what its members make one after the other, if the type is among
them. -/
theorem ObjectFrame.toOption_decode (o : ObjectFrame) (now : Timestamp) :
    (decode now o.text).toOption =
      (gather? 126 o.contents).bind fun d => (d.finish now).toOption := by
  refine Envelope.toOption_decode (fun rest => ?_) o.lead_blank o.trail_blank
  have hread := toOption_readObject now 126 o.inner_blank o.spaced o.quotable o.wellFormed rest
  rw [Json.objectText, List.cons_append, List.append_assoc, List.append_assoc]
  exact hread

/-- **What an array makes.** It is what its values make in the order of the names. -/
theorem ArrayFrame.toOption_decode (a : ArrayFrame) (now : Timestamp) :
    (decode now a.text).toOption = Draft.complete? 126 now names .empty a.values := by
  refine Envelope.toOption_decode (fun rest => ?_) a.lead_blank a.trail_blank
  have hread := toOption_readArray now 126 a.inner_blank a.spaced a.wellFormed rest
  rw [Json.arrayText, List.cons_append, List.append_assoc, List.append_assoc]
  exact hread

end Messenger.Envelope
