import Messenger.Proofs.Session.Effects
import Messenger.Proofs.Session.Kept
import Messenger.Proofs.Session.Pulse
import Messenger.Proofs.Session.WireOrder

set_option relaxedAutoImplicit false
set_option autoImplicit false

/-!
# How a session behaves on its links

On every link the session writes texts, and at last one close, with which it gives the link up for
good: nothing is written on it any more, and nothing that comes over it is heard. Whatever the
reason for giving up a link is, it is closed by the very event that gives it up.

## Main definitions

* `Messenger.Session.outboundOn`: what events wrote on a link, texts and closes alike.
* `Messenger.Session.Record.GivesUp`: an event gives up a link.
* `Messenger.Session.Parts`: why a link is given up.
* `Messenger.Session.Discipline`: what is known of the links of a run.

## Main results

* `Messenger.Session.Record.outbound_eq`: what an event writes on a link.
* `Messenger.Session.Record.link_eq_none_iff`: the reasons for which a link is given up.
* `Messenger.Session.link_discipline`: what is known of the links holds of every run.
-/

namespace Messenger.Session

variable {σ : Type}

/-! ### What an event writes -/

/-- What was written on a link so far, texts and closes alike. -/
def Outbox.outbound (link : Nat) (o : Outbox) : List Transport.Outbound :=
  o.strokes.filterMap fun stroke => if stroke.1 = link then some stroke.2 else none

/-- What was written on one link only is found on that. -/
lemma filterMap_of_eq {α : Type} {link : Nat} {xs : List (Nat × α)} (h : ∀ x ∈ xs, x.1 = link) :
    (xs.filterMap fun x => if x.1 = link then some x.2 else none) = xs.map (·.2) := by
  rw [← List.filterMap_eq_map]
  refine List.filterMap_congr fun x hx => ?_
  rw [if_pos (h x hx)]
  rfl

/-- What was written on another link is not found. -/
lemma filterMap_of_ne {α : Type} {link : Nat} {xs : List (Nat × α)} (h : ∀ x ∈ xs, x.1 ≠ link) :
    (xs.filterMap fun x => if x.1 = link then some x.2 else none) = [] :=
  List.filterMap_eq_nil_iff.2 fun x hx => if_neg (h x hx)

variable [Storage σ]

/-- What can be done to what waits writes no text after a close.

**Proof sketch.** One case for each thing that can be done. Only what is sent and what is written on
a new link can be followed by a close. -/
lemma Deed.textsFirst {m : Moment} {t t' : Turn σ} {routed : List Envelope}
    {sent : List (Nat × Envelope)} (hdeed : Deed m t routed sent t') (hempty : t.outbox = .empty)
    (hsent : sent = t'.outbox.frames) : t'.outbox.TextsFirst := by
  have hnothing : t.outbox.said.closed = [] := by
    rw [hempty]
    rfl
  cases hdeed with
  | rests unsent => exact .of_frames (hsent.symm.trans unsent)
  | begins unsent => exact .of_frames (hsent.symm.trans unsent)
  | fails unsent => exact .of_frames (hsent.symm.trans unsent)
  | logsOut unsent => exact .of_frames (hsent.symm.trans unsent)
  | sends e room =>
    obtain ⟨-, houtbox, -⟩ := Deed.room_change room
    refine Turn.textsFirst_route ?_ m e
    rw [houtbox]
    exact hnothing
  | opens credential dialing link => exact Turn.textsFirst_succeed hnothing m credential

namespace Record

/-- What the event wrote on a link, texts and closes alike. -/
def outbound (link : Nat) (r : Record σ) : List Transport.Outbound :=
  r.turn.outbox.outbound link

/-- The event finds a link or opens it, and leaves none. -/
def GivesUp (link : Nat) (r : Record σ) : Prop :=
  r.session.reached r.event = some link ∧ r.turn.session.link = none

variable {r : Record σ}

/-- All that was written counts, unless it is a heartbeat. -/
lemma sent_of_ne (h : r.event ≠ .beat) : r.sent = r.turn.outbox.frames := by
  unfold sent
  split
  · next hbeat => exact absurd hbeat h
  · rfl

/-- The heartbeat writes nothing, or it closes nothing. -/
lemma frames_or_closed_of_beat (hc : r.session.connection.Coherent) (hbeat : r.event = .beat) :
    r.turn.outbox.frames = [] ∨ r.turn.outbox.said.closed = [] := by
  have hmove : Move r.moment r.session .beat r.turn.report := hbeat ▸ r.move hc
  have hframes : r.turn.outbox.frames = _ := hbeat ▸ frames_beat hc r.moment r.store
  rcases hmove.of_beat with ⟨-, hreport⟩ | ⟨-, -, hreport⟩ | ⟨hbroken, -⟩
  · exact .inr (congrArg (·.said.closed) hreport)
  · exact .inr (congrArg (·.said.closed) hreport)
  · refine .inl (hframes.trans (if_neg ?_))
    rintro ⟨hdue, htaken⟩
    rcases hbroken with htimeout | ⟨-, hrefused⟩
    · cases hdue.symm.trans htimeout
    · exact hrefused htaken

/-- No event writes a text after a close. -/
lemma textsFirst (h : r.session.Orderly) : r.turn.outbox.TextsFirst := by
  by_cases hbeat : r.event = .beat
  · rcases frames_or_closed_of_beat h.coherent hbeat with hframes | hclosed
    · exact .of_frames hframes
    · exact .of_closed hclosed
  · exact (deed_step h.coherent r.moment r.event r.store).textsFirst rfl (sent_of_ne hbeat)

/-- An event writes on no link but the one that it reaches.

**Proof sketch.** A ping is written on the link that is there, which every event reaches that opens
none. Anything else is written by what is done to what waits (`deed_step`), on the link that is
there or on one that is opened, and then the number of the new link is the one reached. -/
lemma fst_frames (h : r.session.Orderly) :
    ∀ frame ∈ r.turn.outbox.frames, r.session.reached r.event = some frame.1 := by
  intro frame hframe
  by_cases hbeat : r.event = .beat
  · have hframes : r.turn.outbox.frames = _ := hbeat ▸ frames_beat h.coherent r.moment r.store
    rw [hframes] at hframe
    split at hframe
    · obtain ⟨link, hlink, rfl⟩ := List.mem_map.1 hframe
      exact reached_of_link h.coherent (Option.mem_toList.1 hlink) r.event
    · cases hframe
  · rw [← sent_of_ne hbeat] at hframe
    have hdeed := deed_step h.coherent r.moment r.event r.store
    rcases hdeed.fst_sent h rfl frame hframe with hlink | ⟨hfirst, hopened⟩
    · exact reached_of_link h.coherent hlink r.event
    · have hcount : r.turn.session.opened = r.session.opened + (r.session.opens r.event).toNat :=
        (r.move h.coherent).opened_eq
      have hopened : r.session.opened < r.turn.session.opened := hopened
      cases hopens : r.session.opens r.event with
      | true => rw [reached, if_pos hopens, hfirst]; rfl
      | false =>
        rw [hopens] at hcount
        exact absurd hcount (Nat.ne_of_gt hopened)

/-- **Texts, then one close at most.** What an event writes on a link that it reaches are texts, and
after them one close if no link is left. On another link it writes nothing.

**Proof sketch.** What is written on links is texts before closes (`textsFirst`). All texts are on
the link that is reached (`fst_frames`), and so is the close if there is one, which is by what
becomes of the link; so the strokes on that link are all of them, and those on another are none. -/
lemma outbound_eq (h : r.session.Orderly) (link : Nat) :
    (r.session.reached r.event = some link → ∃ texts : List String,
      r.outbound link = texts.map .text ++ if r.turn.session.link = none then [.close] else []) ∧
    (r.session.reached r.event ≠ some link → r.outbound link = []) := by
  have hframes := fst_frames h
  have hclosed : ∀ other ∈ r.turn.outbox.said.closed,
      r.session.reached r.event = some other := by
    intro other hother
    rcases (r.move h.coherent).link_cases with ⟨-, hnone⟩ | ⟨-, hall⟩
    · rw [show r.turn.outbox.said.closed = [] from hnone] at hother
      cases hother
    · rw [show r.turn.outbox.said.closed = _ from hall] at hother
      exact Option.mem_toList.1 hother
  -- The texts come before the close, and all of it is on the link that is reached.
  unfold outbound Outbox.outbound
  rw [Outbox.strokes_eq (textsFirst h), List.filterMap_append]
  constructor
  · intro hreached
    refine ⟨r.turn.outbox.frames.map fun f => f.2.encode, ?_⟩
    rw [filterMap_of_eq, filterMap_of_eq, List.map_map, List.map_map, List.map_map]
    · congr 1
      rcases (r.move h.coherent).link_cases with ⟨hlink, hnone⟩ | ⟨hlink, hall⟩
      · have hlink : r.turn.session.link = some link := Eq.trans hlink hreached
        rw [show r.turn.outbox.said.closed = [] from hnone, hlink, if_neg (by simp)]
        rfl
      · rw [show r.turn.outbox.said.closed = _ from hall, hreached,
          if_pos (show r.turn.session.link = none from hlink)]
        rfl
    · intro stroke hstroke
      obtain ⟨other, hother, rfl⟩ := List.mem_map.1 hstroke
      exact Option.some.inj ((hclosed other hother).symm.trans hreached)
    · intro stroke hstroke
      obtain ⟨frame, hframe, rfl⟩ := List.mem_map.1 hstroke
      exact Option.some.inj ((hframes frame hframe).symm.trans hreached)
  · intro hne
    rw [filterMap_of_ne, filterMap_of_ne, List.append_nil]
    · intro stroke hstroke heq
      obtain ⟨other, hother, rfl⟩ := List.mem_map.1 hstroke
      exact hne ((hclosed other hother).trans (congrArg some heq))
    · intro stroke hstroke heq
      obtain ⟨frame, hframe, rfl⟩ := List.mem_map.1 hstroke
      exact hne ((hframes frame hframe).trans (congrArg some heq))

/-- A link is closed exactly by the event that gives it up. -/
lemma close_mem_outbound_iff (h : r.session.Orderly) (link : Nat) :
    .close ∈ r.outbound link ↔ r.GivesUp link := by
  obtain ⟨hthere, hother⟩ := outbound_eq h link
  by_cases hreached : r.session.reached r.event = some link
  · obtain ⟨texts, houtbound⟩ := hthere hreached
    rw [houtbound]
    by_cases hnone : r.turn.session.link = none
    · simp [GivesUp, hreached, hnone]
    · simp [GivesUp, hnone]
  · rw [hother hreached]
    simp [GivesUp, hreached]

/-- Which link an event leaves: the one that it reaches, or none. -/
lemma link_eq_or_none (h : r.session.Orderly) :
    r.turn.session.link = r.session.reached r.event ∨ r.turn.session.link = none := by
  rcases (r.move h.coherent).link_cases with ⟨hlink, -⟩ | ⟨hlink, -⟩
  · exact .inl hlink
  · exact .inr hlink

end Record

/-! ### Why a link is given up -/

/-- Why an event gives up the link that it finds or opens: the user connects with another credential
or logs out, or a new link does not take all that is written on it, or the link breaks. -/
def Parts (m : Moment) (s : Session) : Event → Prop
  | .command (.connect credential _) => s.linkCredential ≠ some credential
  | .command (.disconnect _) => True
  | .opened => s.Dialing ∧ ¬ ∀ i < (s.waiting ++ s.followUp m).length, m.accepts i
  | event => s.Breaks m event

/-- What breaks a link is a reason to give it up. -/
lemma parts_of_breaks {m : Moment} {s : Session} {event : Event} (h : s.Breaks m event) :
    s.Parts m event := by
  cases event with
  | command c =>
    cases c with
    | connect credential caller => cases h.1
    | disconnect caller => trivial
    | _ => exact h
  | opened => exact h.elim
  | _ => exact h

/-- An event that finds nothing to concern is no reason to give up a link.

**Proof sketch.** One case for each event: what makes it pass by contradicts its being a reason. -/
lemma not_parts_of_passes {m : Moment} {s : Session} {event : Event} (hlink : s.link ≠ none)
    (h : s.Passes m event) : ¬ s.Parts m event := by
  intro hparts
  cases event with
  | command c =>
    cases c with
    | connect credential caller => exact h
    | reconnect caller => exact h
    | disconnect caller => exact h
    | send e => exact hparts.2 ((h rfl).resolve_left hlink)
    | join room => exact hparts.2 ((h rfl).resolve_left hlink)
    | leave room => exact hparts.2 ((h rfl).resolve_left hlink)
    | _ => cases hparts.1
  | opened => exact h hparts.1
  | ended => exact hlink h
  | beat =>
    rcases hparts with htimeout | ⟨hping, -⟩
    · cases (show _ = none from h).symm.trans htimeout
    · cases (show _ = none from h).symm.trans hping
  | _ => exact hparts

/-- **A link is given up for one of the listed reasons, and for each of them.** The reasons for
which an event gives up a link that is there.

**Proof sketch.** One case for each thing that an event can do. With a link there is no attempt, so
that those that need one do not occur; of the others a call, a loss and a logout give up the link,
and each has met a reason. The rest keep the link, and what they have met excludes every reason. -/
lemma Move.link_eq_none_iff {m : Moment} {s : Session} {event : Event} {r : Report}
    (hc : s.connection.Coherent) (h : Move m s event r) {link : Nat} (hlink : s.link = some link) :
    r.connection.link = none ↔ s.Parts m event := by
  have hsome : s.link ≠ none := by simp [hlink]
  -- With a link there is no attempt, so nothing is done here to one.
  have hattempt : s.attempt = none := (hc.of_link (Option.isSome_iff_ne_none.2 hsome)).2.1
  cases h with
  | passes h => exact iff_of_false hsome (not_parts_of_passes hsome h)
  | grants asker granted =>
    refine iff_of_false hsome ?_
    cases event with
    | command c =>
      cases c with
      | connect credential caller => exact fun hother => hother granted.2.2
      | reconnect caller => exact fun hbreaks => by cases hbreaks.1
      | _ => cases asker
    | _ => cases asker
  | joins credential caller attempt => simp [hattempt] at attempt
  | calls credential caller deadline attempt other =>
    exact iff_of_true rfl (other (Option.isSome_iff_ne_none.2 hsome))
  | asks caller attempt nolink => exact absurd nolink hsome
  | resumes h due => exact absurd (hc.of_retryAt due).1 hsome
  | dials answer other credential deadline attempt choice => simp [hattempt] at attempt
  | fails e failure =>
    have hthere := attempt_of_failure failure
    simp [hattempt] at hthere
  | opens credential deadline attempt => simp [hattempt] at attempt
  | breaks credential deadline attempt => simp [hattempt] at attempt
  | hears text there =>
    obtain ⟨heartbeat, delivered, hear, -⟩ := Report.hear_eq m text (s.report .nothing)
    rw [hear]
    exact iff_of_false hsome id
  | pings there due taken =>
    refine iff_of_false hsome ?_
    rintro (htimeout | ⟨-, hrefused⟩)
    · cases due.symm.trans htimeout
    · exact hrefused taken
  | loses there broken => exact iff_of_true (Report.link_lose _ _) (parts_of_breaks broken)
  | listens kind listener => exact iff_of_false hsome id
  | unlistens kind id => exact iff_of_false hsome fun h => h
  | logsOut caller => exact iff_of_true rfl trivial

/-- The reasons for which an event gives up the link that it finds or opens.

**Proof sketch.** If the link is opened by the event, what it takes of the flush and the rejoin
decides (`Record.offered`). Otherwise it has been there before, and `Move.link_eq_none_iff`
applies. -/
lemma Record.link_eq_none_iff {r : Record σ} (h : r.session.Orderly) {link : Nat}
    (hreached : r.session.reached r.event = some link) :
    r.turn.session.link = none ↔ r.session.Parts r.moment r.event := by
  by_cases hopens : r.Opens
  · obtain ⟨hevent, hdialing⟩ := Record.opens_iff.1 hopens
    rw [(Record.offered h hopens rfl).1.link, hevent, ite_eq_right_iff, Moment.takes_eq_iff]
    simp [Parts, hdialing]
  · have hnot : ¬ (r.event = .opened ∧ r.session.Dialing) := mt Record.opens_iff.2 hopens
    rw [reached_of_not_opens hnot] at hreached
    exact (r.move h.coherent).link_eq_none_iff h.coherent hreached

/-! ### Runs -/

/-- What events wrote on a link, texts and closes alike. -/
def outboundOn (link : Nat) (records : List (Record σ)) : List Transport.Outbound :=
  records.flatMap (Record.outbound link)

/-- What one more event wrote on a link comes last. -/
lemma outboundOn_concat (link : Nat) (records : List (Record σ)) (r : Record σ) :
    outboundOn link (records ++ [r]) = outboundOn link records ++ r.outbound link := by
  simp [outboundOn]

/-- How far it has come with a link after some events. -/
inductive Standing (past : List (Record σ)) (s : Session) (link : Nat) : Prop
  /-- It has not been opened yet, and nothing has been written on it. -/
  | awaited (number : s.opened ≤ link)
      (unreached : ∀ r ∈ past, r.session.reached r.event ≠ some link)
      (outbound : outboundOn link past = [])
  /-- It is open, and texts have been written on it. -/
  | held (there : s.link = some link) (opened : ∃ r ∈ past, r.Opens ∧ r.session.opened = link)
      (kept : ∀ r ∈ past, ¬ r.GivesUp link)
      (outbound : ∃ texts : List String, outboundOn link past = texts.map .text)
  /-- It has been given up, and was closed with that. -/
  | gone (number : link < s.opened) (away : s.link ≠ some link) (given : ∃ r ∈ past, r.GivesUp link)
      (outbound : ∃ texts : List String, outboundOn link past = texts.map .text ++ [.close])

namespace Standing

variable {past : List (Record σ)} {r : Record σ} {link : Nat}

/-- An event that reaches a link writes texts on it, and keeps it or closes it.

**Proof sketch.** What the event writes is appended to the texts of the past. It is more texts if
the link stays, and texts and the close if none is left; there is no third case, as an event does
not change one link for another. -/
lemma of_reached (h : r.session.Orderly) (hreached : r.session.reached r.event = some link)
    (hopened : ∃ x ∈ past ++ [r], x.Opens ∧ x.session.opened = link)
    (hnumber : link < r.turn.session.opened) (hkept : ∀ x ∈ past, ¬ x.GivesUp link)
    (hpast : ∃ texts : List String, outboundOn link past = texts.map .text) :
    Standing (past ++ [r]) r.turn.session link := by
  obtain ⟨texts, hpast⟩ := hpast
  obtain ⟨more, hmore⟩ := (Record.outbound_eq h link).1 hreached
  have houtbound : outboundOn link (past ++ [r]) = (texts ++ more).map .text ++
      if r.turn.session.link = none then [.close] else [] := by
    rw [outboundOn_concat, hpast, hmore, List.map_append, List.append_assoc]
  rcases Record.link_eq_or_none h with hsame | hnone
  · have hthere := hsame.trans hreached
    rw [hthere, if_neg (by simp), List.append_nil] at houtbound
    refine .held hthere hopened (List.forall_mem_append.2 ⟨hkept, List.forall_mem_singleton.2 ?_⟩)
      ⟨_, houtbound⟩
    rintro ⟨-, hnone⟩
    cases hthere.symm.trans hnone
  · rw [if_pos hnone] at houtbound
    exact .gone hnumber (by simp [hnone]) ⟨r, by simp, hreached, hnone⟩ ⟨_, houtbound⟩

/-- One more event takes every link on.

**Proof sketch.** A link that is reached is open or is the next one to be opened. Links that are not
reached stay as they are, and a link that has been given up is never reached. -/
lemma concat (h : r.session.Orderly) (hstanding : Standing past r.session link) :
    Standing (past ++ [r]) r.turn.session link := by
  have hcount : r.turn.session.opened = r.session.opened + (r.session.opens r.event).toNat :=
    (r.move h.coherent).opened_eq
  have hsilent : r.session.reached r.event ≠ some link →
      outboundOn link (past ++ [r]) = outboundOn link past := by
    intro hne
    rw [outboundOn_concat, (Record.outbound_eq h link).2 hne, List.append_nil]
  cases hstanding with
  | awaited number unreached outbound =>
    cases hopens : r.session.opens r.event with
    | true =>
      have hnext : r.session.reached r.event = some r.session.opened := if_pos hopens
      rw [hopens] at hcount
      by_cases hlink : r.session.opened = link
      · subst hlink
        refine of_reached h hnext
          ⟨r, by simp, Record.opens_iff.2 (opens_eq_true_iff.1 hopens), rfl⟩ ?_
          (fun x hx hgives => unreached x hx hgives.1) ⟨[], outbound⟩
        rw [hcount]
        exact Nat.lt_succ_self _
      · have hne : r.session.reached r.event ≠ some link := by
          rw [hnext]
          exact fun heq => hlink (Option.some.inj heq)
        refine .awaited ?_ (List.forall_mem_append.2 ⟨unreached, List.forall_mem_singleton.2 hne⟩)
          ((hsilent hne).trans outbound)
        rw [hcount, Bool.toNat_true]
        omega
    | false =>
      have hfound : r.session.reached r.event = r.session.link := if_neg (by simp [hopens])
      have hne : r.session.reached r.event ≠ some link := by
        rw [hfound]
        intro hlink
        exact absurd (h.numbered link hlink) (Nat.not_lt.2 number)
      refine .awaited ?_ (List.forall_mem_append.2 ⟨unreached, List.forall_mem_singleton.2 hne⟩)
        ((hsilent hne).trans outbound)
      rw [hcount, hopens]
      exact number
  | held there opened kept outbound =>
    obtain ⟨x, hx, hopened⟩ := opened
    refine of_reached h (reached_of_link h.coherent there r.event)
      ⟨x, List.mem_append_left _ hx, hopened⟩ ?_ kept outbound
    rw [hcount]
    exact Nat.lt_add_right _ (h.numbered link there)
  | gone number away given outbound =>
    obtain ⟨x, hx, hgiven⟩ := given
    -- A link that is opened has a higher number, and the one that is there is another one.
    have hne : r.session.reached r.event ≠ some link := by
      unfold reached
      split
      · exact fun heq => Nat.ne_of_gt number (Option.some.inj heq)
      · exact away
    refine .gone ?_ ?_ ⟨x, List.mem_append_left _ hx, hgiven⟩ (by rwa [hsilent hne])
    · rw [hcount]
      exact Nat.lt_add_right _ number
    · rcases Record.link_eq_or_none h with hsame | hnone
      · rwa [hsame]
      · simp [hnone]

end Standing

/-! ### What comes in -/

/-- Something comes in over a link: a text, or its end. -/
def Event.Inbound : Event → Prop
  | .received _ | .ended => True
  | _ => False

/-- Without a link nothing comes in: such an event does nothing at all. -/
lemma Record.turn_of_inbound {r : Record σ} (hevent : r.event.Inbound)
    (hlink : r.session.link = none) : r.turn = r.session.turn r.store := by
  obtain ⟨m, event, s, store⟩ := r
  have hnone : ¬ s.link.isSome := by simpa using hlink
  cases event with
  | received text => exact if_neg hnone
  | ended => exact if_neg hnone
  | _ => exact hevent.elim

/-! ### The end of a session -/

/-- The end of a session closes the link that is open, and writes nothing else.

**Proof sketch.** The end of a session writes no text, so that what is on the link is what is
closed. -/
lemma outbound_shutDown (m : Moment) (s : Session) (store : σ) (link : Nat) :
    (shutDown m s store).outbox.outbound link = if s.link = some link then [.close] else [] := by
  have hframes : (shutDown m s store).outbox.frames = [] := (quiet_shutDown m s store).frames
  rw [Outbox.outbound, Outbox.strokes_eq (.of_frames hframes), hframes, (said_shutDown m s store).2]
  cases s.link with
  | none => rfl
  | some other => by_cases hother : other = link <;> simp [hother]

/-! ### All links of a run -/

/-- What is known of the links when some events have led to a session. -/
structure Discipline (records : List (Record σ)) (s : Session) : Prop where
  /-- On every link texts were written, and then one close if the link was given up. -/
  written : ∀ link, ∃ texts : List String,
    (outboundOn link records = texts.map .text ∧ ∀ r ∈ records, ¬ r.GivesUp link) ∨
      (outboundOn link records = texts.map .text ++ [.close] ∧ ∃ r ∈ records, r.GivesUp link)
  /-- A link was closed exactly by the events that gave it up. -/
  closed : ∀ r ∈ records, ∀ link, .close ∈ r.outbound link ↔ r.GivesUp link
  /-- A link was given up exactly by the events that found it or opened it and were a reason. -/
  reason : ∀ r ∈ records, ∀ link,
    r.GivesUp link ↔ r.session.reached r.event = some link ∧ r.session.Parts r.moment r.event
  /-- What came in did nothing, or it came over the link that was open, which had not been given up
  before. -/
  inbound : ∀ before r after, records = before ++ r :: after → r.event.Inbound →
    r.turn = r.session.turn r.store ∨
      ∃ link, r.session.link = some link ∧ ∀ x ∈ before, ¬ x.GivesUp link
  /-- The link that is open is the only one that has been opened and not given up. -/
  single : ∀ link, s.link = some link ↔
    (∃ r ∈ records, r.Opens ∧ r.session.opened = link) ∧ ∀ r ∈ records, ¬ r.GivesUp link

section Run

variable {s : Session} {store : σ} {events : List (Moment × Event)}

/-- An event takes every link on, in a session that is in order. -/
lemma standing_step (past : List (Record σ)) (r : Record σ)
    (h : r.session.Orderly ∧ ∀ link, Standing past r.session link) :
    r.turn.session.Orderly ∧ ∀ link, Standing (past ++ [r]) r.turn.session link :=
  ⟨orderly_step h.1 r.moment r.event r.store, fun link => (h.2 link).concat h.1⟩

/-- How far it has come with every link when a run has come to its end, and before every event of
it.

**Proof sketch.** Nothing is open and nothing written at the beginning, and every event takes every
link on (`standing_step`). -/
lemma standing_run (h : s.Orderly) (hnew : s.opened = 0) :
    ((run events s store).1.Orderly ∧
        ∀ link, Standing (trace events s store) (run events s store).1 link) ∧
      ∀ before r after, trace events s store = before ++ r :: after →
        r.session.Orderly ∧ ∀ link, Standing before r.session link := by
  have hstart : s.Orderly ∧ ∀ link, Standing ([] : List (Record σ)) s link :=
    ⟨h, fun link => .awaited (by simp [hnew]) (by simp) rfl⟩
  constructor
  · exact history_run (P := fun past s _ => s.Orderly ∧ ∀ link, Standing past s link)
      (fun past r _ => standing_step past r) hstart
  · intro before r after htrace
    exact history_trace (P := fun past s _ => s.Orderly ∧ ∀ link, Standing past s link)
      (fun past r _ => standing_step past r) hstart htrace

end Run

/-- **Texts, one close, then silence.** On every link that a session opens it writes texts, and at
last one close, by the event that gives the link up, whatever the reason; the end of the session is
one. Nothing is heard over a link that has been given up, and all links but one have been.

**Proof sketch.** An event writes only on the link that it finds or opens, and closes that link
exactly if none is left (`Record.close_mem_outbound_iff`, `Record.link_eq_none_iff`). Links are
numbered as they are opened, so that none comes back: every link is awaited, open or gone after each
event of the run (`standing_run`), and each part of the discipline is read off these three cases. -/
theorem link_discipline {settings : Settings} {target : Settings.Target} {began : Timestamp}
    {stored store : σ} {s : Session} {events : List (Moment × Event)}
    (hstart : start began settings target stored = (s, store)) :
    Discipline (trace events s store) (run events s store).1 ∧
      ∀ m link, (shutDown m (run events s store).1 (run events s store).2.1).outbox.outbound link =
        if (run events s store).1.link = some link then [.close] else [] := by
  have hnew : s.opened = 0 := by
    obtain ⟨rfl, rfl⟩ := Prod.ext_iff.1 hstart
    rfl
  obtain ⟨⟨hend, hlast⟩, hevery⟩ :
      ((run events s store).1.Orderly ∧ ∀ link, Standing _ _ link) ∧ _ :=
    standing_run (orderly_start hstart) hnew
  have horderly : ∀ r ∈ trace events s store, r.session.Orderly := by
    intro r hr
    obtain ⟨before, after, htrace⟩ := List.append_of_mem hr
    exact (hevery before r after htrace).1
  refine ⟨⟨?_, ?_, ?_, ?_, ?_⟩, fun m link => outbound_shutDown m _ _ link⟩
  · intro link
    cases hlast link with
    | awaited number unreached outbound =>
      exact ⟨[], .inl ⟨outbound, fun r hr hgives => unreached r hr hgives.1⟩⟩
    | held there opened kept outbound =>
      obtain ⟨texts, houtbound⟩ := outbound
      exact ⟨texts, .inl ⟨houtbound, kept⟩⟩
    | gone number away given outbound =>
      obtain ⟨texts, houtbound⟩ := outbound
      exact ⟨texts, .inr ⟨houtbound, given⟩⟩
  · exact fun r hr link => Record.close_mem_outbound_iff (horderly r hr) link
  · exact fun r hr link => and_congr_right fun hreached =>
      Record.link_eq_none_iff (horderly r hr) hreached
  · intro before r after htrace hevent
    cases hlink : r.session.link with
    | none => exact .inl (Record.turn_of_inbound hevent hlink)
    | some link =>
      refine .inr ⟨link, rfl, ?_⟩
      obtain ⟨h, hstanding⟩ := hevery before r after htrace
      cases hstanding link with
      | awaited number => exact absurd (h.numbered link hlink) (Nat.not_lt.2 number)
      | held there opened kept => exact kept
      | gone number away => exact absurd hlink away
  · intro link
    cases hlast link with
    | awaited number unreached =>
      refine ⟨fun hlink => absurd (hend.numbered link hlink) (Nat.not_lt.2 number), ?_⟩
      rintro ⟨⟨r, hr, hopens, hopened⟩, -⟩
      refine absurd ?_ (unreached r hr)
      rw [reached, if_pos (opens_eq_true_iff.2 (Record.opens_iff.1 hopens)), hopened]
    | held there opened kept => exact ⟨fun _ => ⟨opened, kept⟩, fun _ => there⟩
    | gone number away given =>
      refine ⟨fun hlink => absurd hlink away, ?_⟩
      rintro ⟨-, hkept⟩
      obtain ⟨r, hr, hgives⟩ := given
      exact absurd hgives (hkept r hr)

/-- Two notes are written on the first link, which is closed as the user logs out. -/
theorem link_discipline_notes :
    ∃ s store, start Sample.epoch Sample.settings Sample.target (⟨[]⟩ : Store.Memory) = (s, store) ∧
      Discipline (trace Sample.events s store) (run Sample.events s store).1 ∧
      outboundOn 0 (trace Sample.events s store) =
        [.text (Sample.note 3).encode, .text (Sample.note 2).encode, .close] := by
  obtain ⟨first, hfirst⟩ : ∃ first,
    start Sample.epoch Sample.settings Sample.target (⟨[]⟩ : Store.Memory) = first := ⟨_, rfl⟩
  refine ⟨first.1, first.2, hfirst, (link_discipline hfirst).1, ?_⟩
  rw [← hfirst]
  rfl

end Messenger.Session
