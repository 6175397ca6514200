import Mathlib.Data.List.Nodup
import Messenger.Proofs.Dispatch.Snapshot
import Messenger.Proofs.Envelope.Shapes

set_option relaxedAutoImplicit false
set_option autoImplicit false

/-!
# Routing by tag

A kind is as good as its tag: two tags stand for one kind only if they are the same, and the tag can
be had back from the kind in every form. So a frame goes to those who are registered under the very
tag that stands in it, whether that tag is known or not.

## Main definitions

* `Messenger.Kind.known`, `Messenger.Kind.knownTags`: the kinds whose tags are known, and the tags.
* `Messenger.Envelope.Denotes`: the text that stands in a written value.
* `Messenger.Envelope.Typed`: the type that stands in the text of a frame.

## Main results

* `Messenger.Envelope.kind_of_typed`: the kind of an envelope is made of the type in its frame.
* `Messenger.Dispatch.routed_by_tag`: who is called for a frame.
-/

namespace Messenger

/-! ### Kinds and tags -/

namespace Kind

/-- The kinds that have a constructor of their own. -/
def known : List Kind :=
  [sendMessage, joinRoom, leaveRoom, typing, markRead, ping, pong, newMessage, messageRead,
    userTyping, userJoined, userLeft, presenceUpdate, roomInvited, roomJoined, roomLeft,
    authRequired, error]

/-- The tags that are known. -/
def knownTags : List String :=
  known.map tag

/-- The tag of a known kind stands for that kind. -/
lemma ofTag_tag_of_mem {kind : Kind} (h : kind ∈ known) : ofTag kind.tag = kind := by
  have hall : ∀ kind ∈ known, ofTag kind.tag = kind := by decide
  exact hall kind h

/-- A tag stands for a known kind exactly if it is the tag of that kind. -/
lemma ofTag_eq_iff_of_mem {kind : Kind} (h : kind ∈ known) (s : String) :
    ofTag s = kind ↔ s = kind.tag := by
  rw [← ofTag_inj, ofTag_tag_of_mem h]

/-- A tag that is not known is kept word for word, and no other one is.

**Proof sketch.** Either the tag is that of a kind that is known, which has a constructor of its
own, or none of the branches of `ofTag` but the last one takes it. -/
lemma ofTag_eq_other_iff (s t : String) : ofTag s = other t ↔ t = s ∧ s ∉ knownTags := by
  constructor
  · intro h
    refine ⟨?_, fun hmem => ?_⟩
    · rw [← tag_ofTag s, h]
      rfl
    · obtain ⟨kind, hkind, rfl⟩ := List.mem_map.1 hmem
      rw [ofTag_tag_of_mem hkind] at h
      subst h
      simp [known] at hkind
  · rintro ⟨rfl, hunknown⟩
    unfold ofTag
    split
    all_goals first | rfl | exact absurd (by decide) hunknown

end Kind

namespace Envelope

open Json (outcome?)

/-- A kind is written as a text, which is its tag. -/
lemma parse_writeKind (kind : Kind) :
    Json.parse (String.ofList (writeKind kind)) = .ok (.text kind.tag) := by
  have hback : Json.ReadsBack (Json.readValue Json.depthLimit) Json.Value.write
      (.text kind.tag) := Json.readValue_write (Nat.zero_le _) trivial trivial
  have hread := hback [] Json.ends_nil
  rw [List.append_nil] at hread
  rw [Json.parse, Json.decode, String.toList_ofList, writeKind, Kind.toText_eq_tag]
  have hwrite : Json.quote kind.tag.toList = (Json.Value.text kind.tag).write := rfl
  rw [hwrite, hread]
  rfl

/-- A kind is read from its written form as the kind that its tag stands for. -/
lemma decode_writeKind (kind : Kind) :
    Json.decode readKind (String.ofList (writeKind kind)) = .ok (Kind.ofTag kind.tag) := by
  have hread := readString_quote aString kind.tag []
  rw [List.append_nil] at hread
  rw [Json.decode, String.toList_ofList, writeKind, Kind.toText_eq_tag, readKind, hread]
  rfl

/-! ### The type of a frame -/

/-- A value is a text, which denotes the given one. -/
def Denotes (w : List Char) (s : String) : Prop :=
  outcome? (Json.readString aString) w = some s

/-- The text of a frame has the given type: it is an object with a member of that name, or an array
that begins with it. -/
def Typed (text s : String) : Prop :=
  (∃ o : ObjectFrame, text = o.text ∧ ∃ c ∈ o.contents, c.name = some "type" ∧ Denotes c.value s) ∨
    ∃ a : ArrayFrame, text = a.text ∧ ∃ w, a.values.head? = some w ∧ Denotes w s

/-- A type that has been read stays.

**Proof sketch.** A second type is refused, and members of any other name leave the type alone. -/
lemma Draft.kind_put? {depth : Nat} {d d' : Draft} {name : String} {w : List Char} {kind : Kind}
    (hkind : d.kind = some kind) (h : d.put? depth name w = some d') : d'.kind = some kind := by
  unfold Draft.put? at h
  split at h
  · simp [hkind] at h
  · obtain ⟨x, -, rfl⟩ := Option.map_eq_some_iff.1 h
    exact hkind
  · obtain ⟨x, -, rfl⟩ := Option.map_eq_some_iff.1 h
    exact hkind
  · obtain ⟨x, -, rfl⟩ := Option.map_eq_some_iff.1 h
    exact hkind
  · cases h
    exact hkind

/-- A type that has been read stays whatever is read behind it. -/
lemma kind_foldlM {depth : Nat} {contents : List Content} {d d' : Draft} {kind : Kind}
    (hkind : d.kind = some kind) (h : contents.foldlM (Draft.take? depth) d = some d') :
    d'.kind = some kind := by
  induction contents generalizing d with
  | nil =>
    cases h
    exact hkind
  | cons c contents ih =>
    obtain ⟨d₁, htake, hrest⟩ := Option.bind_eq_some_iff.1 h
    obtain ⟨name, -, hput⟩ := Option.bind_eq_some_iff.1 htake
    exact ih (Draft.kind_put? hkind hput) hrest

/-- The kind that members make is made of the type among them, wherever it stands.

**Proof sketch.** The order of the members does not matter (`gather?_perm`), so the type may be
taken to come first. There it is read, and what comes behind it leaves it alone (`kind_foldlM`). -/
lemma kind_gather? {depth : Nat} {contents : List Content} {c : Content} (hc : c ∈ contents)
    (hname : c.name = some "type") {s : String} (hs : Denotes c.value s) {d : Draft}
    (h : gather? depth contents = some d) : d.kind = some (Kind.ofTag s) := by
  have hread : outcome? readKind c.value = some (Kind.ofTag s) := by
    have hkind : outcome? readKind c.value =
        (outcome? (Json.readString aString) c.value).map Kind.ofTag := by
      simp only [outcome?, readKind, Json.toOption_map, Option.map_map]
      rfl
    rw [hkind, show outcome? (Json.readString aString) c.value = some s from hs]
    rfl
  have htake : Draft.empty.take? depth c = some ⟨some (Kind.ofTag s), none, none, none⟩ := by
    rw [Draft.take?, hname]
    show Option.map _ (outcome? readKind c.value) = _
    rw [hread]
    rfl
  rw [gather?_perm (List.perm_cons_erase hc), gather?, List.foldlM_cons, htake] at h
  exact kind_foldlM rfl h

/-- **The type in a frame decides the kind.** The kind of an envelope is made of the type in its
frame.

**Proof sketch.** Both forms of a frame come down to contents that are gathered: the members of an
object, or the values of an array under the names of their places, of which the type is the first.
So `kind_gather?` applies, and to finish the draft does not change its kind. -/
theorem kind_of_typed {now : Timestamp} {text s : String} {e : Envelope} (htyped : Typed text s)
    (h : decode now text = .ok e) : e.kind = Kind.ofTag s := by
  have hmade : (decode now text).toOption = some e := by
    rw [h]
    rfl
  suffices hgather : ∃ contents c, c ∈ contents ∧ c.name = some "type" ∧ Denotes c.value s ∧
      ((gather? 126 contents).bind fun d => (d.finish now).toOption) = some e by
    obtain ⟨contents, c, hc, hname, hs, hgather⟩ := hgather
    obtain ⟨d, hd, hfinish⟩ := Option.bind_eq_some_iff.1 hgather
    have hkind := Draft.kind_of_finish (Json.eq_ok_of_toOption hfinish)
    rw [kind_gather? hc hname hs hd] at hkind
    exact (Option.some.inj hkind).symm
  rcases htyped with ⟨o, rfl, c, hc, hname, hs⟩ | ⟨a, rfl, w, hw, hs⟩
  · rw [o.toOption_decode] at hmade
    exact ⟨o.contents, c, hc, hname, hs, hmade⟩
  · have hfit : a.values.length ≤ names.length := by
      refine Nat.le_of_not_lt fun hlong => ?_
      rw [a.toOption_decode, Draft.complete?_eq_none hlong] at hmade
      cases hmade
    rw [a.toOption_decode, Draft.complete?_eq_placed hfit] at hmade
    refine ⟨placed names a.values, ⟨some "type", w⟩, ?_, rfl, hs, hmade⟩
    obtain ⟨rest, hvalues⟩ := List.head?_eq_some_iff.1 hw
    rw [hvalues]
    exact List.mem_cons_self ..

end Envelope

/-! ### Who is called -/

namespace Dispatch

open Registry (Action replay Roll)

variable {μ : Type}

/-- An envelope of a kind that was made of a tag is delivered to those who are registered for it, in
the order of their registrations, unless it is an answer to a ping.

**Proof sketch.** Those who are called are those who were registered for the kind as the delivery
began (`deliver_eq`), which the roll tells. -/
lemma ids_deliver (past : List (Action (Code μ))) (memory : μ) (depth : Nat) {e : Envelope}
    {s : String} (hkind : e.kind = Kind.ofTag s) :
    (deliver (depth + 1) e ⟨replay past .empty, memory, false⟩).calls.map (·.id) =
      if s = "pong" then [] else ((Roll.of past).forKind (Kind.ofTag s)).map (·.id) := by
  have hpong : e.kind = .pong ↔ s = "pong" := by
    rw [hkind]
    exact Kind.ofTag_eq_iff_of_mem (by decide) s
  rw [deliver_eq]
  by_cases hs : s = "pong"
  · rw [if_pos hs, Registry.audience, if_pos (hpong.2 hs)]
    rfl
  · have hids := congrArg (List.map Prod.fst) (map_playAll (deliver depth) e
      ((replay past .empty).audience e) ⟨replay past .empty, memory, false⟩)
    rw [audience_replay past (mt hpong.1 hs), List.map_map, List.map_map, List.map_map, hkind]
      at hids
    rw [if_neg hs, audience_replay past (mt hpong.1 hs), hkind]
    exact hids

/-- Two registrations on a roll are the same if their numbers are. -/
lemma eq_of_id_eq (past : List (Action (Code μ))) {x y : Registry.Registration (Code μ)}
    (hx : x ∈ (Roll.of past).entries) (hy : y ∈ (Roll.of past).entries) (h : x.id = y.id) :
    x = y := by
  have hnodup : ((Roll.of past).entries.map (·.id)).Nodup :=
    (Roll.ascending_of past).entries.imp Nat.ne_of_lt
  exact List.inj_on_of_nodup_map hnodup hx hy h

/-- **A frame goes to those who are registered for its tag.** Kinds that are made of tags are the
same exactly if the tags are, and the tag is had back from the kind as it is shown, as a text of its
own and from its written form. Of the tags those that are known stand for a kind with a constructor,
one for each, and all others are kept word for word. For whatever has been registered: a frame that
is decoded has a type, of which its kind is made, and the listeners that are called for it are those
that are registered for the kind made of that type, in the order of their registrations. So a
listener that is registered for the kind made of a tag is called exactly if the tag is that type,
and none is called for an answer to a ping.

**Proof sketch.** The first parts are `Kind.tag_ofTag` and what follows from it. For a frame, the
tag of the kind that was decoded is the type that stands in it (`Envelope.kind_of_typed`), so
`ids_deliver` tells who is called. No number is given twice, so a registration is among those called
only if it is the one that was made for that kind. -/
theorem routed_by_tag :
    (∀ s t : String, Kind.ofTag s = Kind.ofTag t ↔ s = t) ∧
    (∀ s : String, (Kind.ofTag s).tag = s ∧ toString (Kind.ofTag s) = s ∧
      (Kind.ofTag s).toText = s ∧
      Json.parse (String.ofList (Envelope.writeKind (Kind.ofTag s))) = .ok (.text s) ∧
      Json.decode Envelope.readKind (String.ofList (Envelope.writeKind (Kind.ofTag s))) =
        .ok (Kind.ofTag s)) ∧
    (∀ s t : String, Kind.ofTag s = .other t ↔ t = s ∧ s ∉ Kind.knownTags) ∧
    (∀ kind ∈ Kind.known, ∀ s, Kind.ofTag s = kind ↔ s = kind.tag) ∧
    ∀ (past : List (Action (Code μ))) (memory : μ) (depth : Nat) (now : Timestamp) (text : String)
      (e : Envelope), Envelope.decode now text = .ok e →
      let roll := Roll.of past
      let calls := (deliver (depth + 1) e ⟨replay past .empty, memory, false⟩).calls
      ∃ s, e.kind = Kind.ofTag s ∧ (∀ s', Envelope.Typed text s' → s' = s) ∧
        calls.map (·.id) =
          (if s = "pong" then [] else (roll.forKind (Kind.ofTag s)).map (·.id)) ∧
        ∀ x ∈ roll.entries, ∀ t, x.kind = Kind.ofTag t →
          (x.id ∈ calls.map (·.id) ↔ t = s ∧ s ≠ "pong") := by
  refine ⟨fun _ _ => Kind.ofTag_inj, fun s => ?_, Kind.ofTag_eq_other_iff,
    fun kind h s => Kind.ofTag_eq_iff_of_mem h s, ?_⟩
  · have htag := Kind.tag_ofTag s
    have hparse := Envelope.parse_writeKind (Kind.ofTag s)
    have hdecode := Envelope.decode_writeKind (Kind.ofTag s)
    rw [htag] at hparse hdecode
    exact ⟨htag, htag, (Kind.toText_eq_tag _).trans htag, hparse, hdecode⟩
  · intro past memory depth now text e hdecode roll calls
    have hkind := (Envelope.ofTag_tag_of_decode hdecode).symm
    refine ⟨e.kind.tag, hkind, fun s' htyped => ?_, ids_deliver past memory depth hkind, ?_⟩
    · rw [Envelope.kind_of_typed htyped hdecode, Kind.tag_ofTag]
    · intro x hx t ht
      rw [show calls.map (·.id) = _ from ids_deliver past memory depth hkind]
      by_cases hpong : e.kind.tag = "pong"
      · simp [hpong]
      · rw [if_neg hpong, List.mem_map]
        constructor
        · rintro ⟨y, hy, hid⟩
          obtain ⟨hy, hykind⟩ := List.mem_filter.1 hy
          obtain rfl := eq_of_id_eq past hy hx hid
          rw [ht, decide_eq_true_eq, Kind.ofTag_inj] at hykind
          exact ⟨hykind, hpong⟩
        · rintro ⟨rfl, -⟩
          exact ⟨x, List.mem_filter.2 ⟨hx, by simpa using ht⟩, rfl⟩

namespace Sample

/-- The text of a known tag is a value. -/
lemma wellFormed_tag : Json.WellFormed "\"new_message\"".toList :=
  have hplain : Json.Unescaped "new_message".toList := by decide
  .plain (.text hplain.quotable)

/-- An array with nothing but a type. -/
def bare : Envelope.ArrayFrame :=
  Envelope.Sample.array ["\"new_message\"".toList] (by simpa using wellFormed_tag)

/-- Listeners that do nothing: for the kind of a known tag in two ways, for an unknown kind that is
shown by the same tag, for another unknown kind and for answers to pings. -/
def mixed : List (Action (Code Unit)) :=
  [Kind.newMessage, .other "new_message", .ofTag "new_message", .ofTag "reaction", .pong].map
    fun kind => .on kind fun _ _ => .finish

end Sample

/-- Those are called who are registered for the kind that the tag stands for, and not the one for a
kind that only looks like it. -/
theorem routed_by_tag_new_message :
    ∃ e, Envelope.decode Envelope.Sample.noon Sample.bare.text = .ok e ∧
      Envelope.Typed Sample.bare.text "new_message" ∧ e.kind = .newMessage ∧
      (deliver 3 e ⟨replay Sample.mixed .empty, (), false⟩).calls.map (·.id) = [1, 3] := by
  have hdecode : Envelope.decode Envelope.Sample.noon Sample.bare.text =
      .ok ⟨.newMessage, .null, Envelope.Sample.noon, ""⟩ := by
    apply Json.eq_ok_of_toOption
    rw [Sample.bare.toOption_decode]
    rfl
  have htyped : Envelope.Typed Sample.bare.text "new_message" :=
    .inr ⟨Sample.bare, rfl, _, rfl, rfl⟩
  refine ⟨_, hdecode, htyped, rfl, ?_⟩
  obtain ⟨-, -, -, -, hroute⟩ := routed_by_tag (μ := Unit)
  obtain ⟨s, -, htype, hids, -⟩ := hroute Sample.mixed () 2 _ _ _ hdecode
  rw [hids, ← htype "new_message" htyped]
  rfl

end Dispatch

end Messenger
