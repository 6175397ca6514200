import Messenger.Proofs.Envelope.Gathering

set_option relaxedAutoImplicit false
set_option autoImplicit false

/-!
# The forms of a frame agree

The order of an object's members does not matter, and neither do members of names that an envelope
does not have. An array of values is the object whose members have these values, in the order of the
names. A name that an envelope has may occur once only, and its type must be there.

## Main results

* `Messenger.Envelope.gather?_perm`: members make the same in any order.
* `Messenger.Envelope.shapes_agree`: which frames are the same, and which are refused.
-/

namespace Messenger.Envelope

open Json (Blank Entry Member)

/-! ### Order -/

/-- A member that may occur once only occurs a second time. -/
@[simp] lemma once_some {α : Type} (x : α) (read : Json.Reader α) (w : List Char) :
    once (some x) read w = none := rfl

/-- A name that an envelope does not have is left out. -/
lemma Draft.put?_of_notMem {name : String} (h : name ∉ names) (depth : Nat) (d : Draft)
    (w : List Char) : d.put? depth name w = some d := by
  simp only [names, List.mem_cons, List.not_mem_nil, or_false, not_or] at h
  obtain ⟨htype, hpayload, htimestamp, hid⟩ := h
  unfold Draft.put?
  split <;> first | contradiction | rfl

/-- Two members of a name that an envelope has refuse each other. -/
lemma Draft.put?_twice {name : String} (h : name ∈ names) (depth : Nat) (d : Draft)
    (w w' : List Char) : ((d.put? depth name w).bind fun d => d.put? depth name w') = none := by
  simp only [names, List.mem_cons, List.not_mem_nil, or_false] at h
  rcases h with rfl | rfl | rfl | rfl
  · show (Option.bind (Option.map _ (once d.kind readKind w)) _) = none
    cases once d.kind readKind w <;> rfl
  · show (Option.bind (Option.map _ (once d.payload (readPayload depth) w)) _) = none
    cases once d.payload (readPayload depth) w <;> rfl
  · show (Option.bind (Option.map _ (once d.timestamp readTimestamp w)) _) = none
    cases once d.timestamp readTimestamp w <;> rfl
  · show (Option.bind (Option.map _ (once d.requestId readRequestId w)) _) = none
    cases once d.requestId readRequestId w <;> rfl

/-- Two members can be exchanged: they fill different places, or they refuse each other.

**Proof sketch.** Members of other names are left out, and two of one name are refused in both
orders. Two of different names fill different places, so each is read or refused as if it were
alone. -/
lemma Draft.put?_comm (depth : Nat) (d : Draft) (name name' : String) (w w' : List Char) :
    ((d.put? depth name w).bind fun d => d.put? depth name' w') =
      (d.put? depth name' w').bind fun d => d.put? depth name w := by
  by_cases hsame : name = name'
  · subst hsame
    by_cases hmem : name ∈ names
    · rw [put?_twice hmem, put?_twice hmem]
    · simp [put?_of_notMem hmem]
  by_cases hmem : name ∈ names
  · by_cases hmem' : name' ∈ names
    · simp only [names, List.mem_cons, List.not_mem_nil, or_false] at hmem hmem'
      rcases hmem with rfl | rfl | rfl | rfl <;> rcases hmem' with rfl | rfl | rfl | rfl
      all_goals first | exact absurd rfl hsame | skip
      all_goals
        simp only [Draft.put?, Option.map_eq_bind, Option.bind_assoc, Function.comp_def,
          Option.bind_some]
        exact Option.bind_comm _ _
    · simp [put?_of_notMem hmem']
  · simp [put?_of_notMem hmem]

/-- Members make the same in any order.

**Proof sketch.** Induction on the exchanges that lead from one order to the other. -/
lemma foldlM_take?_perm {contents contents' : List Content} (h : contents.Perm contents')
    (depth : Nat) (d : Draft) :
    contents.foldlM (Draft.take? depth) d = contents'.foldlM (Draft.take? depth) d := by
  induction h generalizing d with
  | nil => rfl
  | cons c _ ih =>
    simp only [List.foldlM_cons]
    exact bind_congr fun d => ih d
  | swap c c' contents =>
    have hcomm : (d.take? depth c' >>= fun d => d.take? depth c) =
        d.take? depth c >>= fun d => d.take? depth c' := by
      obtain ⟨_ | name, w⟩ := c
      · exact Option.bind_fun_none _
      obtain ⟨_ | name', w'⟩ := c'
      · exact (Option.bind_fun_none _).symm
      exact Draft.put?_comm depth d name' name w' w
    simp only [List.foldlM_cons, ← bind_assoc, hcomm]
  | trans _ _ ih ih' => exact (ih d).trans (ih' d)

/-- **The order of the members does not matter.** They make the same envelope in any order. -/
theorem gather?_perm {contents contents' : List Content} (h : contents.Perm contents')
    (depth : Nat) : gather? depth contents = gather? depth contents' :=
  foldlM_take?_perm h depth .empty

/-! ### Names -/

/-- The member has a name, but none that an envelope has. -/
def Content.Foreign (c : Content) : Prop :=
  ∃ name, c.name = some name ∧ name ∉ names

/-- A member of the name is there. -/
def Occurs (name : String) (contents : List Content) : Prop :=
  some name ∈ contents.map Content.name

instance (name : String) (contents : List Content) : Decidable (Occurs name contents) :=
  inferInstanceAs (Decidable (_ ∈ _))

/-- Members of other names change nothing. -/
lemma foldlM_take?_foreign {others : List Content} (h : ∀ c ∈ others, c.Foreign) (depth : Nat)
    (d : Draft) : others.foldlM (Draft.take? depth) d = some d := by
  induction others with
  | nil => rfl
  | cons c others ih =>
    obtain ⟨name, hname, hforeign⟩ := h c (by simp)
    have htake : d.take? depth c = some d := by
      rw [Draft.take?, hname]
      exact Draft.put?_of_notMem hforeign depth d c.value
    rw [List.foldlM_cons, htake]
    exact ih fun c' hc' => h c' (by simp [hc'])

/-- A member fills the place of its name and no other one.

**Proof sketch.** One case for each name that an envelope has, and one for all others. -/
lemma Draft.put?_fills {depth : Nat} {d d' : Draft} {name : String} {w : List Char}
    (h : d.put? depth name w = some d') :
    (d'.kind.isSome ↔ d.kind.isSome ∨ name = "type") ∧
      (d'.timestamp.isSome ↔ d.timestamp.isSome ∨ name = "timestamp") := by
  unfold Draft.put? at h
  split at h
  · obtain ⟨x, -, rfl⟩ := Option.map_eq_some_iff.1 h
    simp
  · obtain ⟨x, -, rfl⟩ := Option.map_eq_some_iff.1 h
    simp
  · obtain ⟨x, -, rfl⟩ := Option.map_eq_some_iff.1 h
    simp
  · obtain ⟨x, -, rfl⟩ := Option.map_eq_some_iff.1 h
    simp
  · next htype _ htimestamp _ =>
    cases h
    exact ⟨⟨.inl, fun h => h.resolve_right htype⟩, ⟨.inl, fun h => h.resolve_right htimestamp⟩⟩

/-- Members make a type if one of them is of that name, and a timestamp if one is of that.

**Proof sketch.** Induction on the members, by what one of them fills (`Draft.put?_fills`). -/
lemma fills_of_foldlM {depth : Nat} {contents : List Content} {d d' : Draft}
    (h : contents.foldlM (Draft.take? depth) d = some d') :
    (d'.kind.isSome ↔ d.kind.isSome ∨ Occurs "type" contents) ∧
      (d'.timestamp.isSome ↔ d.timestamp.isSome ∨ Occurs "timestamp" contents) := by
  induction contents generalizing d with
  | nil =>
    cases h
    simp [Occurs]
  | cons c contents ih =>
    obtain ⟨d₁, htake, hrest⟩ := Option.bind_eq_some_iff.1 h
    obtain ⟨name, hname, hput⟩ := Option.bind_eq_some_iff.1 htake
    obtain ⟨hkind, htimestamp⟩ := Draft.put?_fills hput
    obtain ⟨ihkind, ihtimestamp⟩ := ih hrest
    simp only [Occurs, List.map_cons, List.mem_cons, hname, Option.some.injEq]
      at ihkind ihtimestamp ⊢
    rw [ihkind, hkind, ihtimestamp, htimestamp, or_assoc, or_assoc, eq_comm (a := name),
      eq_comm (a := name)]
    exact ⟨Iff.rfl, Iff.rfl⟩

/-- Two members of a name that an envelope has are refused, whatever else is there.

**Proof sketch.** As the order does not matter, the two may be taken to come first, where they
refuse each other. -/
lemma gather?_twice {name : String} (hname : name ∈ names) {contents : List Content}
    (h : 2 ≤ (contents.map Content.name).count (some name)) (depth : Nat) :
    gather? depth contents = none := by
  have hpull : ∀ {l : List Content}, 0 < (l.map Content.name).count (some name) →
      ∃ c, c.name = some name ∧ l.Perm (c :: l.erase c) := by
    intro l hl
    obtain ⟨c, hc, heq⟩ := List.mem_map.1 (List.count_pos_iff.1 hl)
    exact ⟨c, heq, List.perm_cons_erase hc⟩
  obtain ⟨c, hc, hperm⟩ := hpull (l := contents) (by omega)
  have hcount := (hperm.map Content.name).count_eq (some name)
  rw [List.map_cons, hc, List.count_cons_self] at hcount
  obtain ⟨c', hc', hperm'⟩ := hpull (l := contents.erase c) (by omega)
  have htwice : (Draft.empty.take? depth c >>= fun d => d.take? depth c') = none := by
    simp only [Draft.take?, hc, hc', Option.bind_some]
    exact Draft.put?_twice hname depth .empty c.value c'.value
  rw [gather?_perm (hperm.trans (hperm'.cons c)), gather?, List.foldlM_cons]
  simp only [List.foldlM_cons, ← bind_assoc, htwice]
  rfl

/-! ### The forms of a frame -/

/-- The envelope that the members make at another time: one that came without a timestamp is dated
anew. -/
def restamp (contents : List Content) (now : Timestamp) (e : Envelope) : Envelope :=
  if Occurs "timestamp" contents then e else { e with timestamp := now }

/-- The time of reading matters to an envelope that came without a timestamp, and to no other.

**Proof sketch.** A place is filled exactly if a member of its name is there (`fills_of_foldlM`). So
the time of reading takes the place of the timestamp exactly where no member is one. -/
lemma finish_gather? (depth : Nat) (contents : List Content) (now now' : Timestamp) :
    ((gather? depth contents).bind fun d => (d.finish now').toOption) =
      ((gather? depth contents).bind fun d => (d.finish now).toOption).map
        (restamp contents now') := by
  cases hgather : gather? depth contents with
  | none => rfl
  | some d =>
    have hfills : d.timestamp.isSome ↔ Occurs "timestamp" contents := by
      simpa [Draft.empty] using (fills_of_foldlM hgather).2
    obtain ⟨kind, payload, timestamp, requestId⟩ := d
    cases kind with
    | none => rfl
    | some kind =>
      cases timestamp with
      | none =>
        have hmissing : ¬ Occurs "timestamp" contents := fun h => nomatch hfills.2 h
        simp [Draft.finish, Except.toOption, restamp, hmissing]
      | some t =>
        have hthere : Occurs "timestamp" contents := hfills.1 rfl
        simp [Draft.finish, Except.toOption, restamp, hthere]

/-- The text of a frame is refused. -/
def Refused (now : Timestamp) (text : String) : Prop :=
  ∃ e, decode now text = .error e ∧ e.code.name = "DECODE"

/-- All frames are refused for the same cause. -/
lemma code_of_decode {now : Timestamp} {text : String} {e : Error}
    (h : decode now text = .error e) : e.code.name = "DECODE" := by
  unfold decode at h
  split at h
  · cases h
  · cases h
    rfl

/-- What is not made is refused. -/
lemma refused_of_toOption {now : Timestamp} {text : String}
    (h : (decode now text).toOption = none) : Refused now text := by
  cases hdecode : decode now text with
  | ok e =>
    rw [hdecode] at h
    cases h
  | error e => exact ⟨e, hdecode, code_of_decode hdecode⟩

/-- **The forms of a frame agree.** An object is accepted exactly if it is with its members in any
other order and with any further members of other names among them, and as the same envelope, except
that one without a timestamp has that of the time of reading. If its members are the first ones of
type, payload, timestamp and identifier, the same is true of the array of their values. An object
with two members of a name that an envelope has is refused, and so are one without a type and an
array of more than four values. Whatever is refused is refused with one code.

**Proof sketch.** Of both forms all that matters is what their contents gather
(`ObjectFrame.toOption_decode`, `ArrayFrame.toOption_decode`). That does not change with their order
(`gather?_perm`), nor with foreign members behind them (`foldlM_take?_foreign`), and the values of
an array gather what they do under the names of their places (`Draft.complete?_eq_placed`). The time
of reading shows only where no timestamp was given (`finish_gather?`). A name that comes twice
gathers nothing (`gather?_twice`), a draft without a type is not finished, and values that are too
many leave something in front of the bracket (`Draft.complete?_eq_none`). -/
theorem shapes_agree :
    (∀ (o o' : ObjectFrame) (others : List Content), (∀ c ∈ others, c.Foreign) →
      o'.contents.Perm (o.contents ++ others) → ∀ now now',
        (decode now' o'.text).toOption =
          (decode now o.text).toOption.map (restamp o.contents now')) ∧
    (∀ (o : ObjectFrame) (a : ArrayFrame), a.values.length ≤ 4 →
      o.contents.Perm (placed names a.values) → ∀ now now',
        (decode now' a.text).toOption =
          (decode now o.text).toOption.map (restamp o.contents now')) ∧
    (∀ (o : ObjectFrame) (name : String), name ∈ names →
      2 ≤ (o.contents.map Content.name).count (some name) → ∀ now, Refused now o.text) ∧
    (∀ o : ObjectFrame, ¬ Occurs "type" o.contents → ∀ now, Refused now o.text) ∧
    (∀ a : ArrayFrame, 4 < a.values.length → ∀ now, Refused now a.text) ∧
    ∀ now text e, decode now text = .error e → e.code.name = "DECODE" := by
  refine ⟨?_, ?_, ?_, ?_, ?_, fun now text e h => code_of_decode h⟩
  · intro o o' others hothers hperm now now'
    -- Foreign members are dropped, so both frames gather the same fields.
    have hgather : gather? 126 o'.contents = gather? 126 o.contents := by
      rw [gather?_perm hperm, gather?, List.foldlM_append]
      show Option.bind (gather? 126 o.contents) _ = _
      cases gather? 126 o.contents with
      | none => rfl
      | some d => exact foldlM_take?_foreign hothers 126 d
    rw [o'.toOption_decode, o.toOption_decode, hgather]
    exact finish_gather? 126 o.contents now now'
  · intro o a hlength hperm now now'
    -- The array is read as the object in which its values stand under the names of the fields.
    rw [a.toOption_decode, o.toOption_decode, Draft.complete?_eq_placed hlength]
    show ((gather? 126 (placed names a.values)).bind _) = _
    rw [← gather?_perm hperm]
    exact finish_gather? 126 o.contents now now'
  · intro o name hname hcount now
    apply refused_of_toOption
    rw [o.toOption_decode, gather?_twice hname hcount]
    rfl
  · intro o htype now
    apply refused_of_toOption
    rw [o.toOption_decode]
    cases hgather : gather? 126 o.contents with
    | none => rfl
    | some d =>
      have hkind : d.kind = none := by
        have hfills := (fills_of_foldlM hgather).1
        simpa [Draft.empty, htype] using hfills
      simp [Draft.finish, hkind, Except.toOption]
  · intro a hlength now
    have hlong : names.length < a.values.length := hlength
    apply refused_of_toOption
    rw [a.toOption_decode, Draft.complete?_eq_none hlong]

namespace Sample

/-- A moment without fractions. -/
def noon : Timestamp :=
  ⟨⟨2024, 2, 29⟩, 12, 0, 0, 0⟩

/-- A member on a line of its own. -/
def member (name value : String) : Member :=
  ⟨[' '], name.toList, [], ⟨[' '], value.toList, ['\n']⟩⟩

/-- The member is one of the grammar. -/
def Formed (m : Member) : Prop :=
  m.Spaced ∧ Json.Quotable m.name ∧ Json.WellFormed m.value.core

/-- An object of such members. -/
def object (members : List Member) (h : ∀ m ∈ members, Formed m) : ObjectFrame where
  lead := ['\n']
  inner := []
  members := members
  trail := []
  lead_blank := by decide
  inner_blank := Json.blank_nil
  trail_blank := Json.blank_nil
  spaced := fun m hm => (h m hm).1
  quotable := fun m hm => (h m hm).2.1
  wellFormed := fun m hm => (h m hm).2.2

/-- An array of values without blanks. -/
def array (values : List (List Char)) (h : ∀ w ∈ values, Json.WellFormed w) : ArrayFrame where
  lead := []
  inner := []
  items := values.map Entry.bare
  trail := ['\n']
  lead_blank := Json.blank_nil
  inner_blank := Json.blank_nil
  trail_blank := by decide
  spaced := List.forall_mem_map.2 fun w _ => Json.Entry.spaced_bare w
  wellFormed := List.forall_mem_map.2 h

/-- The text of a kind is a value. -/
lemma wellFormed_pong : Json.WellFormed "\"pong\"".toList :=
  have hplain : Json.Unescaped "pong".toList := by decide
  .plain (.text hplain.quotable)

/-- An array that is closed at once is a value. -/
lemma wellFormed_array : Json.WellFormed "[]".toList := by
  have hnone : Json.WellFormed (Json.arrayText [] []) :=
    .array Json.blank_nil (by simp) (by simp)
  exact hnone

/-- A member with a value is one of the grammar if its value is and its name needs no escape. -/
lemma formed_member {name value : String} (hvalue : Json.WellFormed value.toList)
    (hname : Json.Unescaped name.toList) : Formed (member name value) := by
  have hblank : Blank [' '] := by decide
  have hend : Blank ['\n'] := by decide
  exact ⟨⟨hblank, Json.blank_nil, hblank, hend⟩, hname.quotable, hvalue⟩

/-- A name with an escape is one of the grammar. -/
lemma formed_escaped : Formed (member "t\\u0079pe" "\"pong\"") := by
  have hblank : Blank [' '] := by decide
  refine ⟨⟨hblank, Json.blank_nil, hblank, by decide⟩, ?_, wellFormed_pong⟩
  refine .plain (by decide) (by decide) (by decide) (.long ?_ ?_ ?_ ?_ ?_)
  · exact .inl (by decide)
  · exact .inl (by decide)
  · exact .inl (by decide)
  · exact .inl (by decide)
  · have hplain : Json.Unescaped "pe".toList := by decide
    exact hplain.quotable

/-- A type and a payload. -/
def ordered : ObjectFrame :=
  object [member "type" "\"pong\"", member "payload" "[]"] (by
    simpa using ⟨formed_member wellFormed_pong (by decide),
      formed_member wellFormed_array (by decide)⟩)

/-- The same in another order, with an escape in a name and two members of another name. -/
def scrambled : ObjectFrame :=
  object [member "x" "[]", member "payload" "[]", member "x" "\"pong\"",
    member "t\\u0079pe" "\"pong\""] (by
    simpa using ⟨formed_member wellFormed_array (by decide),
      formed_member wellFormed_array (by decide), formed_member wellFormed_pong (by decide),
      formed_escaped⟩)

/-- The type twice, once with an escape. -/
def doubled : ObjectFrame :=
  object [member "type" "\"pong\"", member "t\\u0079pe" "\"pong\""] (by
    simpa using ⟨formed_member wellFormed_pong (by decide), formed_escaped⟩)

/-- A payload without a type. -/
def typeless : ObjectFrame :=
  object [member "payload" "[]"] (by simpa using formed_member wellFormed_array (by decide))

/-- A type and a payload without their names. -/
def positional : ArrayFrame :=
  array ["\"pong\"".toList, "[]".toList] (by simpa using ⟨wellFormed_pong, wellFormed_array⟩)

/-- Five values. -/
def overlong : ArrayFrame :=
  array (List.replicate 5 "\"pong\"".toList) (by
    intro w hw
    rw [List.eq_of_mem_replicate hw]
    exact wellFormed_pong)

end Sample

/-- The three frames that say the same are read alike, and the other three are refused.

**Proof sketch.** The three that agree are compared with the first of them by the parts of
`shapes_agree` about objects and arrays, and each of the others is refused by a part of its own. -/
theorem shapes_agree_pong :
    decode Sample.noon Sample.ordered.text = .ok ⟨.pong, .array [], Sample.noon, ""⟩ ∧
    (∀ now, (decode now Sample.scrambled.text).toOption = some ⟨.pong, .array [], now, ""⟩) ∧
    (∀ now, (decode now Sample.positional.text).toOption = some ⟨.pong, .array [], now, ""⟩) ∧
    (∀ now, Refused now Sample.doubled.text ∧ Refused now Sample.typeless.text ∧
      Refused now Sample.overlong.text) := by
  have hordered : Sample.ordered.contents =
      [⟨some "type", "\"pong\"".toList⟩, ⟨some "payload", "[]".toList⟩] := by decide +kernel
  have hread : decode Sample.noon Sample.ordered.text =
      .ok ⟨.pong, .array [], Sample.noon, ""⟩ := by
    apply Json.eq_ok_of_toOption
    rw [Sample.ordered.toOption_decode, hordered]
    rfl
  obtain ⟨hobject, harray, htwice, htype, hlong, -⟩ := shapes_agree
  refine ⟨hread, fun now => ?_, fun now => ?_, fun now => ⟨?_, ?_, ?_⟩⟩
  · have hothers : ∀ c ∈ [⟨some "x", "[]".toList⟩, ⟨some "x", "\"pong\"".toList⟩],
        Content.Foreign c := by
      simp [Content.Foreign, names]
    have hperm : Sample.scrambled.contents.Perm (Sample.ordered.contents ++
        [⟨some "x", "[]".toList⟩, ⟨some "x", "\"pong\"".toList⟩]) := by decide +kernel
    rw [hobject Sample.ordered Sample.scrambled _ hothers hperm Sample.noon now, hread, hordered]
    rfl
  · have hperm : Sample.ordered.contents.Perm (placed names Sample.positional.values) := by
      decide +kernel
    rw [harray Sample.ordered Sample.positional (by decide) hperm Sample.noon now, hread, hordered]
    rfl
  · exact htwice Sample.doubled "type" (by decide) (by decide +kernel) now
  · exact htype Sample.typeless (by decide +kernel) now
  · exact hlong Sample.overlong (by decide) now

end Messenger.Envelope
