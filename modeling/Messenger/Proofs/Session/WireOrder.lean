import Messenger.Proofs.Session.Orderly

set_option relaxedAutoImplicit false
set_option autoImplicit false

/-!
# The order on the wire

What is written on a link is, in this order, what waited in memory when it was opened, what waited
in storage, joining the room again, and what the user sends as long as the link is there. It ends
where the link refuses an envelope for the first time; that one and those behind it wait in storage
then, and no later envelope is written on that link.

## Main definitions

* `Messenger.Session.writtenOn`: what has been written on a link.
* `Messenger.Session.orderedOn`: what the user has sent while a link was there.
* `Messenger.Session.LinkOrder`: what is known of a link that was opened in a run.

## Main results

* `Messenger.Session.wire_order`: that much is known of every link of every run.
-/

namespace Messenger.Session

variable {σ : Type}

/-! ### What is written on a link -/

/-- The envelopes that events have sent for the user while a link was there. -/
def orderedOn (link : Nat) (records : List (Record σ)) : List Envelope :=
  (records.filter fun r => r.session.link = some link).flatMap fun r => r.event.ordered r.moment

/-- What the user has sent while a link was there begins with what was sent by the first event. -/
lemma orderedOn_cons (link : Nat) (r : Record σ) (records : List (Record σ)) :
    orderedOn link (r :: records) =
      (if r.session.link = some link then r.event.ordered r.moment else []) ++
        orderedOn link records := by
  unfold orderedOn
  by_cases h : r.session.link = some link <;> simp [h]

/-- While there is a link nothing is sent but what the user sends. -/
lemma Record.routed_of_link {r : Record σ} (h : r.session.Orderly) (hlink : r.session.link.isSome) :
    r.routed = r.event.ordered r.moment := by
  have hattempt : r.session.attempt = none := (h.coherent.of_link hlink).2.1
  have hdialing : ¬ r.session.Dialing := by
    rintro ⟨credential, deadline, hdialing⟩
    simp [hattempt] at hdialing
  unfold Record.routed
  cases r.event with
  | opened => simp [hdialing, Event.ordered]
  | _ => rfl

variable [Storage σ]

/-- The envelopes that events have written on a link, heartbeats aside. -/
def writtenOn (link : Nat) (records : List (Record σ)) : List Envelope :=
  (records.flatMap Record.sent).filterMap fun frame => if frame.1 = link then some frame.2 else none

/-- The event opens the link, or finds it there. -/
def Record.Concerns (link : Nat) (r : Record σ) : Prop :=
  r.session.link = some link ∨ (r.Opens ∧ r.session.opened = link)

/-- The link refuses nothing that the event offers to it. -/
def Record.Unrefused (r : Record σ) : Prop :=
  ∀ i < r.turn.outbox.offers, r.moment.accepts i

/-- What is known of a link that is opened by the event `r`, after the events `before` and before
the events `after`. -/
structure LinkOrder (before : List (Record σ)) (r : Record σ) (after : List (Record σ)) : Prop where
  /-- What waited, joining the room again, and what the user sent while the link was there: some
  part of this at the front has been written. -/
  written : writtenOn r.session.opened (before ++ r :: after) <+:
    r.session.pending.items ++ r.session.offline.items ++ r.session.rejoining r.moment ++
      orderedOn r.session.opened after
  /-- If the link has refused nothing, all of it has been written. -/
  complete : (∀ r' ∈ before ++ r :: after, r'.Concerns r.session.opened → r'.Unrefused) →
    writtenOn r.session.opened (before ++ r :: after) =
      r.session.pending.items ++ r.session.offline.items ++ r.session.rejoining r.moment ++
        orderedOn r.session.opened after
  /-- If the link refuses one of those that waited, that one and those behind it wait in storage. -/
  interrupted : ∀ k < (r.session.pending.items ++ r.session.offline.items).length,
    (∀ i < k, r.moment.accepts i) → ¬ r.moment.accepts k →
      r.turn.session.pending.items = [] ∧
        r.turn.session.offline.items =
          (r.session.pending.items ++ r.session.offline.items).drop k ∧
        r.turn.session.offline.detached = false
  /-- If it refuses joining the room again, that waits in storage. -/
  unjoined : (∀ i < (r.session.pending.items ++ r.session.offline.items).length,
      r.moment.accepts i) →
    ¬ r.moment.accepts (r.session.pending.items ++ r.session.offline.items).length →
      r.turn.session.pending.items = [] ∧
        r.turn.session.offline.items = r.session.rejoining r.moment ∧
        r.turn.session.offline.detached = false
  /-- If it refuses what the user sends later, that waits in storage. -/
  refused : ∀ r' ∈ after, r'.session.link = some r.session.opened →
    ∀ e ∈ r'.event.ordered r'.moment, ¬ r'.moment.accepts 0 →
      r'.turn.session.pending.items = [] ∧ r'.turn.session.offline.items = [e] ∧
        r'.turn.session.offline.detached = false

/-! ### Deeds on a link -/

/-- An envelope that is sent is written on the link, if there is one and it takes the envelope. -/
lemma Turn.frames_route (m : Moment) (e : Envelope) (t : Turn σ) :
    (t.route m e).outbox.frames = t.outbox.frames ++
      if m.accepts t.outbox.offers then (t.session.link.map fun link => (link, e)).toList
      else [] := by
  have h := congrArg Account.frames (Turn.account_route m e t)
  rw [show ((t.route m e).account m.stamp).frames = (t.route m e).outbox.frames from rfl] at h
  rw [h]
  cases t.session.link with
  | none => cases t.session.attempt <;> simp [Account.route, Account.keep, Turn.account]
  | some link =>
    by_cases ha : m.accepts t.outbox.offers <;>
      simp [Account.route, Account.offer, Account.keep, Turn.account, ha]

/-- While there is a link, an envelope that is sent is written on it; or the link refuses it and is
lost, and the envelope is all that waits.

**Proof sketch.** There are two ways for an envelope to go while there is a link. If it is taken it
is written, and that is all. If it is refused it is put into storage, which was empty and shown, and
the link is lost. -/
lemma Turn.route_of_link {m : Moment} {t : Turn σ} (h : t.session.Orderly)
    (hempty : t.outbox = .empty) {link : Nat} (hlink : t.session.link = some link) (e : Envelope) :
    (t.route m e).outbox.frames = ([e].take (m.takes 0 1)).map (link, ·) ∧
      (m.takes 0 1 ≠ 1 →
        (t.route m e).session.link = none ∧ (∃ i < (t.route m e).outbox.offers, ¬ m.accepts i) ∧
          (t.route m e).session.pending.items = [] ∧ (t.route m e).session.offline.items = [e] ∧
          (t.route m e).session.offline.detached = false) := by
  have hsome : t.session.link.isSome := by simp [hlink]
  have hframes := Turn.frames_route m e t
  rw [hempty, hlink, show Outbox.empty.frames = [] from rfl, List.nil_append] at hframes
  rcases Turn.route_cases m e t with ⟨_, -, htakes, -⟩ | ⟨_, -, htakes, hroute⟩ | ⟨hnone, -⟩ |
    ⟨hnone, -⟩
  · rw [hempty, show Outbox.empty.offers = 0 from rfl] at htakes
    refine ⟨?_, fun hne => absurd ?_ hne⟩
    · rw [hframes, show Outbox.empty.offers = 0 from rfl, if_pos htakes]
      simp [Moment.takes, htakes]
    · simp [Moment.takes, htakes]
  · rw [hempty, show Outbox.empty.offers = 0 from rfl] at htakes
    refine ⟨?_, fun _ => ?_⟩
    · rw [hframes, show Outbox.empty.offers = 0 from rfl, if_neg htakes]
      simp [Moment.takes, htakes]
    -- Nothing waited, so what the link has refused is all that waits now.
    · obtain ⟨hclear, hshown⟩ := h.clear hsome
      have hidle := h.idle (h.coherent.of_link hsome).2.1
      have hlost := Turn.lose_spec m (Turn.keep m e { t with
        outbox := { t.outbox with offers := t.outbox.offers + 1 } })
      have hquiet := Turn.quiet_lose m (Turn.keep m e { t with
        outbox := { t.outbox with offers := t.outbox.offers + 1 } })
      rw [← hroute] at hlost hquiet
      refine ⟨hlost.1, ⟨0, ?_, htakes⟩, ?_, ?_, ?_⟩
      · rw [hquiet.offers]
        exact Nat.succ_pos _
      · rw [hquiet.pending]
        exact hidle
      · rw [hquiet.offline]
        show (t.session.offline.push m.stamp e t.store).1.items = [e]
        rw [Queue.Offline.items_push, Queue.Offline.contents_of_shown hshown, hclear,
          List.nil_append]
      · rw [hquiet.offline]
        exact Queue.Offline.detached_push m.stamp e t.session.offline t.store
  · simp [hlink] at hnone
  · simp [hlink] at hnone

namespace Deed

variable {m : Moment} {t t' : Turn σ} {routed : List Envelope} {sent : List (Nat × Envelope)}

/-- What waits is offered to a link that is opened. -/
lemma opens_offered (hdialing : t.session.Dialing) (h : t.session.Orderly)
    (hempty : t.outbox = .empty) (credential : String) :
    ∃ es, t.Offered m es (t.succeed m credential) :=
  ⟨_, Turn.offered_succeed (h.shown hdialing.isSome) (by rw [hempty]; rfl) m credential rfl⟩

/-- What is written is written on the link that is there, or on one that is opened.

**Proof sketch.** Only two things that can be done write anything. What is sent goes to the link
that is there, and what waits goes to the link that is opened, with the number that it has. -/
lemma fst_sent (hdeed : Deed m t routed sent t') (h : t.session.Orderly)
    (hempty : t.outbox = .empty) :
    ∀ frame ∈ sent, t.session.link = some frame.1 ∨
      (frame.1 = t.session.opened ∧ t.session.opened < t'.session.opened) := by
  cases hdeed with
  | rests unsent => simp [unsent]
  | begins unsent => simp [unsent]
  | fails unsent => simp [unsent]
  | logsOut unsent => simp [unsent]
  | @sends t₁ e room =>
    obtain ⟨hconnection, houtbox, -⟩ := room_change room
    have hlink : t₁.session.link = t.session.link := congrArg Connection.link hconnection
    intro frame hframe
    rw [Turn.frames_route, houtbox, hempty, hlink, show Outbox.empty.frames = [] from rfl,
      List.nil_append] at hframe
    split at hframe
    · obtain ⟨link, hsome, rfl⟩ := Option.map_eq_some_iff.1 (Option.mem_toList.1 hframe)
      exact .inl hsome
    · cases hframe
  | opens credential dialing link =>
    obtain ⟨es, hoffered⟩ := opens_offered dialing h hempty credential
    intro frame hframe
    rw [hoffered.frames, hempty, show Outbox.empty.frames = [] from rfl, List.nil_append] at hframe
    obtain ⟨e, -, rfl⟩ := List.mem_map.1 hframe
    refine .inr ⟨rfl, ?_⟩
    rw [hoffered.opened]
    exact Nat.lt_succ_self _

/-- No link comes about but the one that is numbered next.

**Proof sketch.** A link is there after an event because it was there before, or because it is
opened by the event and has the next number. -/
lemma link_ne (hdeed : Deed m t routed sent t') (h : t.session.Orderly)
    (hempty : t.outbox = .empty) :
    t.session.opened ≤ t'.session.opened ∧
      ∀ link < t.session.opened, t.session.link ≠ some link → t'.session.link ≠ some link := by
  have hnone : t'.session.link = none → ∀ link : Nat, t'.session.link ≠ some link := by
    intro hnone link
    simp [hnone]
  cases hdeed with
  | rests unsent still attempt link opened =>
    refine ⟨Nat.le_of_eq opened.symm, fun n _ hn => ?_⟩
    rcases link with hlink | hlink
    · rwa [hlink]
    · exact hnone hlink n
  | begins unsent still before attempt link opened =>
    exact ⟨Nat.le_of_eq opened.symm, fun n _ _ => hnone link n⟩
  | fails unsent still before attempt link opened =>
    exact ⟨Nat.le_of_eq opened.symm, fun n _ _ => hnone link n⟩
  | logsOut unsent still attempt link opened =>
    exact ⟨Nat.le_of_eq opened.symm, fun n _ _ => hnone link n⟩
  | @sends t₁ e room =>
    obtain ⟨hconnection, -⟩ := room_change room
    obtain ⟨due, hroute⟩ := Turn.connection_route m e t₁
    rw [hconnection] at hroute
    split at hroute
    · refine ⟨Nat.le_of_eq ?_, fun n _ _ => hnone ?_ n⟩
      · have hopened := congrArg Connection.opened hroute
        rw [Connection.opened_lose] at hopened
        exact hopened.symm
      · have hlink := congrArg Connection.link hroute
        rw [Connection.link_lose] at hlink
        exact hlink
    · refine ⟨Nat.le_of_eq (congrArg Connection.opened hroute).symm, fun n _ hn => ?_⟩
      rwa [show (t₁.route m e).session.link = t.session.link from congrArg Connection.link hroute]
  | opens credential dialing link =>
    obtain ⟨es, hoffered⟩ := opens_offered dialing h hempty credential
    refine ⟨by rw [hoffered.opened]; omega, fun n hn _ => ?_⟩
    rw [hoffered.link]
    split
    · intro hsome
      rw [Option.some.inj hsome] at hn
      exact Nat.lt_irrefl _ hn
    · simp

/-- What is sent while there is a link is written on it, up to the first envelope that it refuses.
With that the link is lost, and the envelope waits in storage.

**Proof sketch.** Either nothing is sent, and then nothing is refused, or one envelope is
(`Turn.route_of_link`). No link is opened while there is one. -/
lemma of_link (hdeed : Deed m t routed sent t') (h : t.session.Orderly)
    (hempty : t.outbox = .empty) {link : Nat} (hlink : t.session.link = some link) :
    sent = (routed.take (m.takes 0 routed.length)).map (link, ·) ∧
      (m.takes 0 routed.length ≠ routed.length →
        t'.session.link = none ∧ (∃ i < t'.outbox.offers, ¬ m.accepts i) ∧
          t'.session.pending.items = [] ∧ t'.session.offline.items = routed ∧
          t'.session.offline.detached = false) := by
  have hnothing : sent = [] → sent = (([] : List Envelope).take (m.takes 0 0)).map (link, ·) := by
    simp
  have hfull : ∀ P : Prop, m.takes 0 0 ≠ 0 → P := fun P hne => absurd rfl hne
  cases hdeed with
  | rests unsent => exact ⟨hnothing unsent, hfull _⟩
  | begins unsent => exact ⟨hnothing unsent, hfull _⟩
  | fails unsent => exact ⟨hnothing unsent, hfull _⟩
  | logsOut unsent => exact ⟨hnothing unsent, hfull _⟩
  | @sends t₁ e room =>
    obtain ⟨hconnection, houtbox, -⟩ := room_change room
    have hlink₁ : t₁.session.link = some link :=
      (congrArg Connection.link hconnection : t₁.session.link = t.session.link).trans hlink
    exact Turn.route_of_link (orderly_room room h) (houtbox.trans hempty) hlink₁ e
  | opens credential dialing nolink => simp [hlink] at nolink

end Deed

/-! ### Runs -/

/-- What a list of events has written on a link begins with what its first event has. -/
lemma writtenOn_cons (link : Nat) (r : Record σ) (records : List (Record σ)) :
    writtenOn link (r :: records) = writtenOn link [r] ++ writtenOn link records := by
  simp [writtenOn]

/-- What an event has written on some link only, it has not written on another one. -/
lemma writtenOn_singleton_of_ne {link : Nat} {r : Record σ}
    (h : ∀ frame ∈ r.sent, frame.1 ≠ link) : writtenOn link [r] = [] := by
  rw [writtenOn, List.flatMap_singleton, List.filterMap_eq_nil_iff]
  intro frame hframe
  rw [if_neg (h frame hframe)]

/-- What an event has written on one link, it has written on that. -/
lemma writtenOn_singleton {link : Nat} {r : Record σ} {es : List Envelope}
    (h : r.sent = es.map (link, ·)) : writtenOn link [r] = es := by
  have hsome : ((fun frame : Nat × Envelope => if frame.1 = link then some frame.2 else none) ∘
      fun e => (link, e)) = some := by
    funext e
    simp
  rw [writtenOn, List.flatMap_singleton, h, List.filterMap_map, hsome, List.filterMap_some]

/-- No run takes back that a link was opened. -/
lemma opened_run {s : Session} (h : s.Orderly) (events : List (Moment × Event)) (store : σ) :
    s.opened ≤ (run events s store).1.opened := by
  induction events generalizing s store with
  | nil => exact Nat.le_refl _
  | cons x rest ih =>
    obtain ⟨m, event⟩ := x
    have hfirst := ((deed_step h.coherent m event store).link_ne h rfl).1
    exact Nat.le_trans hfirst (ih (orderly_step h m event store) _)

/-- Before a link is opened nothing is written on it.

**Proof sketch.** Induction on the events. Whatever the first one writes is on a link with a number
below those that are still to be opened. -/
lemma writtenOn_before {s : Session} (h : s.Orderly) {events : List (Moment × Event)} {store : σ}
    {link : Nat} (hlink : (run events s store).1.opened ≤ link) :
    writtenOn link (trace events s store) = [] := by
  induction events generalizing s store with
  | nil => rfl
  | cons x rest ih =>
    obtain ⟨m, event⟩ := x
    have hrest := orderly_step h m event store
    have hopened := opened_run hrest rest (step m event s store).store
    have hend : (run rest (step m event s store).session (step m event s store).store).1.opened ≤
      link := hlink
    have hfirst := ((deed_step h.coherent m event store).link_ne h rfl).1
    have hfirst : s.opened ≤ (step m event s store).session.opened := hfirst
    rw [trace, writtenOn_cons, ih hrest hend, List.append_nil]
    apply writtenOn_singleton_of_ne
    intro frame hframe
    rcases (deed_step h.coherent m event store).fst_sent h rfl frame hframe with hsome | ⟨hnew, hlt⟩
    · have := h.numbered frame.1 hsome
      omega
    · have hnew : frame.1 = s.opened := hnew
      have hlt : s.opened < (step m event s store).session.opened := hlt
      omega

/-- After a link is gone nothing is written on it, and nothing is sent while it is there.

**Proof sketch.** Induction on the events. A link that is gone does not come back (`link_ne`), and
only one that is there or new is written on (`fst_sent`). -/
lemma writtenOn_after {s : Session} (h : s.Orderly) {link : Nat} (hopened : link < s.opened)
    (hgone : s.link ≠ some link) (events : List (Moment × Event)) (store : σ) :
    writtenOn link (trace events s store) = [] ∧ orderedOn link (trace events s store) = [] := by
  induction events generalizing s store with
  | nil => exact ⟨rfl, rfl⟩
  | cons x rest ih =>
    obtain ⟨m, event⟩ := x
    obtain ⟨hle, hne⟩ := (deed_step h.coherent m event store).link_ne h rfl
    obtain ⟨hwritten, hordered⟩ := ih (orderly_step h m event store)
      (Nat.lt_of_lt_of_le hopened hle) (hne link hopened hgone) (step m event s store).store
    rw [trace, writtenOn_cons, orderedOn_cons, hwritten, hordered, if_neg hgone]
    refine ⟨?_, rfl⟩
    rw [List.append_nil]
    apply writtenOn_singleton_of_ne
    intro frame hframe heq
    rcases (deed_step h.coherent m event store).fst_sent h rfl frame hframe with hsome | ⟨hnew, -⟩
    · rw [heq] at hsome
      exact hgone hsome
    · have hnew : frame.1 = s.opened := hnew
      omega

/-- While a link is there, what is written on it is what the user sends, up to the first envelope
that the link refuses.

**Proof sketch.** Induction on the events. If the link takes what the first one sends, or that sends
nothing, the link is still there or has been lost otherwise. If it refuses it, the link is gone, and
nothing more is written on it. -/
lemma writtenOn_while {s : Session} (h : s.Orderly) {link : Nat} (hlink : s.link = some link)
    (events : List (Moment × Event)) (store : σ) :
    writtenOn link (trace events s store) <+: orderedOn link (trace events s store) ∧
      ((∀ r ∈ trace events s store, r.Concerns link → r.Unrefused) →
        writtenOn link (trace events s store) = orderedOn link (trace events s store)) := by
  induction events generalizing s store with
  | nil => exact ⟨List.prefix_rfl, fun _ => rfl⟩
  | cons x rest ih =>
    obtain ⟨m, event⟩ := x
    have hdeed := deed_step h.coherent m event store
    have hsome : s.link.isSome := by simp [hlink]
    have hopened := Nat.lt_of_lt_of_le (h.numbered link hlink) (hdeed.link_ne h rfl).1
    have hnext := orderly_step h m event store
    obtain ⟨es, hes⟩ : ∃ es, es = event.ordered m := ⟨_, rfl⟩
    have hrouted : (Record.mk m event s store).routed = es :=
      (Record.routed_of_link (r := ⟨m, event, s, store⟩) h hsome).trans hes.symm
    rw [hrouted] at hdeed
    obtain ⟨hsent, hrefused⟩ := hdeed.of_link h rfl hlink
    rw [trace, writtenOn_cons, orderedOn_cons, if_pos hlink, writtenOn_singleton hsent, ← hes]
    -- Either the link takes what this event sends, and may be there for more, or it is gone.
    by_cases hall : m.takes 0 es.length = es.length
    · rw [hall, List.take_length]
      by_cases hstill : (step m event s store).session.link = some link
      · obtain ⟨hfront, hcomplete⟩ := ih hnext hstill (step m event s store).store
        refine ⟨(List.prefix_append_right_inj es).2 hfront, fun hrecords => ?_⟩
        rw [hcomplete fun r hr => hrecords r (List.mem_cons_of_mem _ hr)]
      · obtain ⟨hwritten, hordered⟩ :=
          writtenOn_after hnext hopened hstill rest (step m event s store).store
        rw [hwritten, hordered]
        exact ⟨List.prefix_rfl, fun _ => rfl⟩
    · obtain ⟨hgone, ⟨i, hi, hrefuses⟩, -⟩ := hrefused hall
      obtain ⟨hwritten, hordered⟩ := writtenOn_after hnext hopened (by simp [hgone]) rest
        (step m event s store).store
      rw [hwritten, hordered, List.append_nil, List.append_nil]
      refine ⟨List.take_prefix _ _, fun hrecords => absurd ?_ hrefuses⟩
      exact hrecords ⟨m, event, s, store⟩ List.mem_cons_self (.inl hlink) i hi

/-- What a list of events has written on a link, in two parts. -/
lemma writtenOn_append (link : Nat) (xs ys : List (Record σ)) :
    writtenOn link (xs ++ ys) = writtenOn link xs ++ writtenOn link ys := by
  simp [writtenOn]

/-- An event that opens a link makes an attempt succeed. -/
lemma Record.turn_of_opens {r : Record σ} (hr : r.Opens) :
    ∃ credential, r.turn = (r.session.turn r.store).succeed r.moment credential := by
  obtain ⟨hevent, credential, deadline, hattempt⟩ := Record.opens_iff.1 hr
  refine ⟨credential, ?_⟩
  rw [Record.turn, hevent]
  simp [step, react, Session.turn, hattempt]

/-- An event that opens a link offers to it all that waits, and then joining the room again. -/
lemma Record.offered {r : Record σ} (h : r.session.Orderly) (hr : r.Opens) {es : List Envelope}
    (hes : es = r.session.waiting ++ r.session.followUp r.moment) :
    (r.session.turn r.store).Offered r.moment es r.turn ∧ r.sent = r.turn.outbox.frames := by
  obtain ⟨credential, hturn⟩ := r.turn_of_opens hr
  obtain ⟨hevent, hdialing⟩ := Record.opens_iff.1 hr
  constructor
  · rw [hturn]
    exact Turn.offered_succeed (t := r.session.turn r.store) (h.shown hdialing.isSome) rfl
      r.moment credential hes
  · rw [Record.sent, hevent]

/-- A new link that takes all that it is offered joins the room again, if that is due. -/
lemma offered_of_taken {m : Moment} {s : Session} {es : List Envelope}
    (hes : es = s.waiting ++ s.followUp m) (hall : m.takes 0 es.length = es.length) :
    es = s.waiting ++ s.rejoining m := by
  have htaken : ∀ i < s.waiting.length, m.accepts i := by
    intro i hi
    have := Moment.takes_eq_iff.1 hall i (by rw [hes, List.length_append]; omega)
    simpa using this
  rw [← followUp_of_taken htaken]
  exact hes

/-- A new link that refuses nothing takes all that it is offered. -/
lemma Record.takes_of_unrefused {r : Record σ} {es : List Envelope}
    (hoffered : (r.session.turn r.store).Offered r.moment es r.turn) (hr : r.Unrefused) :
    r.moment.takes 0 es.length = es.length := by
  rcases Nat.lt_or_eq_of_le (r.moment.takes_le 0 es.length) with hlt | hall
  · refine absurd ?_ (Moment.not_accepts_takes hlt)
    rw [Nat.zero_add]
    apply hr
    rw [hoffered.offers]
    omega
  · exact hall

/-- What is written on a link from the event on that opens it.

**Proof sketch.** The link is offered all that waits, and joining the room again. If it takes that,
what is written later is what the user sends. If not, the link is gone. -/
lemma writtenOn_opens {r : Record σ} (h : r.session.Orderly) (hr : r.Opens)
    (post : List (Moment × Event)) {after : List (Record σ)}
    (hafter : after = trace post r.turn.session r.turn.store) :
    writtenOn r.session.opened (r :: after) <+:
        r.session.waiting ++ r.session.rejoining r.moment ++ orderedOn r.session.opened after ∧
      ((∀ r' ∈ r :: after, r'.Concerns r.session.opened → r'.Unrefused) →
        writtenOn r.session.opened (r :: after) =
          r.session.waiting ++ r.session.rejoining r.moment ++
            orderedOn r.session.opened after) := by
  obtain ⟨es, hes⟩ : ∃ es, es = r.session.waiting ++ r.session.followUp r.moment := ⟨_, rfl⟩
  obtain ⟨hoffered, hsent⟩ := r.offered h hr hes
  have hnext : r.turn.session.Orderly := orderly_step h r.moment r.event r.store
  have hlt : r.session.opened < r.turn.session.opened := by
    rw [hoffered.opened]
    exact Nat.lt_succ_self _
  have hlink : r.turn.session.link =
    if r.moment.takes 0 es.length = es.length then some r.session.opened else none := hoffered.link
  have hframes : r.sent = (es.take (r.moment.takes 0 es.length)).map (r.session.opened, ·) :=
    hsent.trans hoffered.frames
  rw [writtenOn_cons, writtenOn_singleton hframes]
  by_cases hall : r.moment.takes 0 es.length = es.length
  · rw [if_pos hall] at hlink
    rw [hall, List.take_length]
    obtain ⟨hfront, hcomplete⟩ := writtenOn_while hnext hlink post r.turn.store
    rw [← hafter] at hfront hcomplete
    rw [← offered_of_taken hes hall]
    refine ⟨(List.prefix_append_right_inj es).2 hfront, fun hrecords => ?_⟩
    rw [hcomplete fun r' hr' => hrecords r' (List.mem_cons_of_mem r hr')]
  · rw [if_neg hall] at hlink
    have hgone : r.turn.session.link ≠ some r.session.opened := by
      rw [hlink]
      simp
    have hfront : es <+: r.session.waiting ++ r.session.rejoining r.moment := by
      rw [hes, List.prefix_append_right_inj, followUp]
      split
      · exact List.prefix_rfl
      · exact List.nil_prefix
    obtain ⟨hwritten, hordered⟩ := writtenOn_after hnext hlt hgone post r.turn.store
    rw [← hafter] at hwritten hordered
    rw [hwritten, hordered, List.append_nil, List.append_nil]
    refine ⟨(List.take_prefix _ es).trans hfront, fun hrecords => absurd ?_ hall⟩
    exact r.takes_of_unrefused hoffered (hrecords r List.mem_cons_self (.inr ⟨hr, rfl⟩))

/-- If a new link refuses one of those that waited, that one and those behind it wait in storage.

**Proof sketch.** The new link takes so many of what it is offered, as nothing follows what waits,
and what it does not take is left in storage (`Record.offered`). -/
lemma Record.interrupted {r : Record σ} (h : r.session.Orderly) (hr : r.Opens) {k : Nat}
    (hk : k < r.session.waiting.length) (htaken : ∀ i < k, r.moment.accepts i)
    (hrefused : ¬ r.moment.accepts k) :
    r.turn.session.pending.items = [] ∧
      r.turn.session.offline.items = r.session.waiting.drop k ∧
      r.turn.session.offline.detached = false := by
  have hnot : ¬ ∀ i < r.session.waiting.length, r.moment.accepts i := fun hall =>
    hrefused (hall k hk)
  obtain ⟨hoffered, -⟩ := r.offered h hr rfl
  rw [followUp_of_refused hnot, List.append_nil] at hoffered
  have htakes : r.moment.takes 0 r.session.waiting.length = k := by
    apply Moment.takes_eq_of_refuses hk
    · simpa using htaken
    · simpa using hrefused
  refine ⟨hoffered.pending, ?_, hoffered.shown⟩
  rw [hoffered.items, htakes]

/-- If a new link refuses joining the room again, that waits in storage.

**Proof sketch.** The new link takes all that waits and not what follows it, which is joining the
room. -/
lemma Record.unjoined {r : Record σ} (h : r.session.Orderly) (hr : r.Opens)
    (htaken : ∀ i < r.session.waiting.length, r.moment.accepts i)
    (hrefused : ¬ r.moment.accepts r.session.waiting.length) :
    r.turn.session.pending.items = [] ∧
      r.turn.session.offline.items = r.session.rejoining r.moment ∧
      r.turn.session.offline.detached = false := by
  obtain ⟨hoffered, -⟩ := r.offered h hr rfl
  rw [followUp_of_taken htaken] at hoffered
  have htakes : r.moment.takes 0 (r.session.waiting ++ r.session.rejoining r.moment).length =
      r.session.waiting.length := by
    rw [List.length_append, Moment.takes_add,
      if_pos (Moment.takes_eq_iff.2 (by simpa using htaken))]
    cases r.session.rejoining r.moment with
    | nil => rfl
    | cons e rest => simp [Moment.takes, hrefused]
  refine ⟨hoffered.pending, ?_, hoffered.shown⟩
  rw [hoffered.items, htakes, List.drop_left]

/-- If a link refuses what the user sends, that waits in storage. -/
lemma Record.refused {r : Record σ} (h : r.session.Orderly) {link : Nat}
    (hlink : r.session.link = some link) {e : Envelope} (he : e ∈ r.event.ordered r.moment)
    (hrefused : ¬ r.moment.accepts 0) :
    r.turn.session.pending.items = [] ∧ r.turn.session.offline.items = [e] ∧
      r.turn.session.offline.detached = false := by
  have hone := Event.ordered_eq he
  have hdeed := deed_step h.coherent r.moment r.event r.store
  have hrouted : (Record.mk r.moment r.event r.session r.store).routed = [e] :=
    (Record.routed_of_link h (by simp [hlink])).trans hone
  rw [hrouted] at hdeed
  exact ((hdeed.of_link h rfl hlink).2 (by simp [Moment.takes, hrefused])).2.2

/-- What is known of a link, in whatever run it was opened.

**Proof sketch.** Before the event nothing was written on the link (`writtenOn_before`), and from it
on what is written is known (`writtenOn_opens`). Where the link refuses something is a matter of one
event (`Record.interrupted`, `Record.unjoined`, `Record.refused`). -/
lemma linkOrder_of_trace {s : Session} (h : s.Orderly) {store : σ} {events : List (Moment × Event)}
    {before after : List (Record σ)} {r : Record σ}
    (htrace : trace events s store = before ++ r :: after) (hr : r.Opens) :
    LinkOrder before r after := by
  obtain ⟨pre, post, hbefore, hs, -, hafter, -⟩ := trace_eq_append htrace
  have hrecords : ∀ r' ∈ before ++ r :: after, r'.session.Orderly := fun r' hr' =>
    (trace_invariant (P := fun s _ => s.Orderly)
      (fun m event _ store _ h => orderly_step h m event store) h r' (htrace ▸ hr')).1
  have hrecord : r.session.Orderly := hrecords r (by simp)
  have hnone : writtenOn r.session.opened before = [] := by
    rw [hbefore]
    exact writtenOn_before h (Nat.le_of_eq (congrArg Session.opened hs).symm)
  obtain ⟨hfront, hcomplete⟩ := writtenOn_opens hrecord hr post hafter
  rw [← List.nil_append (writtenOn _ (r :: after)), ← hnone, ← writtenOn_append] at hfront hcomplete
  exact {
    written := hfront
    complete := fun hall => hcomplete fun r' hr' => hall r' (List.mem_append_right before hr')
    interrupted := fun k hk => Record.interrupted hrecord hr hk
    unjoined := Record.unjoined hrecord hr
    refused := fun r' hr' hlink e he =>
      Record.refused (hrecords r' (by simp [hr'])) hlink he }

/-- **The order on the wire.** What is written on a link is, in this order, what waited in memory
and in storage when it was opened, joining the room again if that was due, and what the user sent as
long as the link was there, up to the first envelope that the link refused; and what it did not take
waits in storage. So nothing waits while the connection is there.

**Proof sketch.** For a link this is `linkOrder_of_trace`. While the session is connected there is a
link and no attempt, and what waits fits that: nothing does. -/
theorem wire_order {settings : Settings} {target : Settings.Target} {began : Timestamp}
    {stored store : σ} {s : Session} (hstart : start began settings target stored = (s, store))
    (events : List (Moment × Event)) :
    (∀ before r after, trace events s store = before ++ r :: after → r.Opens →
      LinkOrder before r after) ∧
    ∀ r ∈ trace events s store, r.turn.session.publisher.current = .connected →
      r.turn.session.pending.items = [] ∧ r.turn.session.offline.items = [] ∧
        r.turn.session.offline.detached = false := by
  have horderly := orderly_start hstart
  refine ⟨fun _ _ _ => linkOrder_of_trace horderly, fun r hr hconnected => ?_⟩
  have hrecord : r.session.Orderly := (trace_invariant (P := fun s _ => s.Orderly)
    (fun m event _ store _ h => orderly_step h m event store) horderly r hr).1
  have hnext : r.turn.session.Orderly := orderly_step hrecord r.moment r.event r.store
  obtain ⟨hlink, hattempt, -⟩ := (hnext.coherent.shape .connected).2 hconnected.symm
  obtain ⟨hclear, hshown⟩ := hnext.clear hlink
  exact ⟨hnext.idle hattempt, hclear, hshown⟩

/-- A link on which two notes are written, of which the later one had waited in memory.

**Proof sketch.** The run is computed up to the event that opens the link. -/
theorem wire_order_notes :
    ∃ s store, start Sample.epoch Sample.settings Sample.target (Store.Table.empty : Store.Memory) =
        (s, store) ∧
      ∃ before r after, trace Sample.events s store = before ++ r :: after ∧ r.Opens ∧
        LinkOrder before r after := by
  obtain ⟨⟨s, store⟩, hstart⟩ : ∃ first, start Sample.epoch Sample.settings Sample.target
    (Store.Table.empty : Store.Memory) = first := ⟨_, rfl⟩
  have htrace := trace_append (Sample.events.take 3) (Sample.events.drop 3) s store
  rw [List.take_append_drop] at htrace
  have hopens : (Record.mk (Sample.taking 2) .opened (run (Sample.events.take 3) s store).1
      (run (Sample.events.take 3) s store).2.1).Opens := by
    obtain ⟨rfl, rfl⟩ := Prod.ext_iff.1 hstart
    exact ⟨trivial, "key", 10000, rfl⟩
  exact ⟨s, store, hstart, _, _, _, htrace, hopens, (wire_order hstart Sample.events).1 _ _ _ htrace
    hopens⟩

end Messenger.Session
