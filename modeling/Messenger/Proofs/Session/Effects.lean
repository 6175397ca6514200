import Mathlib.Data.List.Basic
import Messenger.Proofs.Session.Account
import Messenger.Proofs.Session.Report

set_option relaxedAutoImplicit false
set_option autoImplicit false

/-!
# What is done to the world outside

The parts of an event add to its effects. Those that write on a link come ahead of the one that
closes it: an event gives up a link at last.

## Main definitions

* `Messenger.Session.Outbox.strokes`: what was written on links, texts and closes alike.
* `Messenger.Session.Outbox.TextsFirst`: no text was written after a close.

## Main results

* `Messenger.Session.Outbox.strokes_eq`: then the texts are the envelopes that were written, and the
  closes come after them.
* `Messenger.Session.Turn.textsFirst_route`, `Messenger.Session.Turn.textsFirst_succeed`: sending an
  envelope and opening a link write no text after a close.
-/

namespace Messenger.Session

/-! ### Parts of an event -/

namespace Turn

variable {σ : Type}

/-- What publishing a state does to the world outside. -/
lemma effects_publish (m : Moment) (next : ConnectionState) (t : Turn σ) :
    (t.publish m next).outbox.effects = t.outbox.effects ++
      if t.session.publisher.current = next then []
      else t.session.publisher.watchers.map fun w => .told w.2 next := by
  unfold publish Publisher.transition
  by_cases h : next = t.session.publisher.current
  · simp [h]
  · simp only [h, Ne.symm h, if_false]
    exact Outbox.effects_tell m next _ _

/-- What giving up the attempt does to the world outside. -/
lemma effects_abandon (t : Turn σ) :
    t.abandon.outbox.effects = t.outbox.effects ++
      (if t.session.attempt.isSome then [.abandoned] else []) ++
      t.session.waiters.map (.replied · (.error .disconnected)) := by
  unfold abandon
  dsimp only [resolve, reply]
  rw [Outbox.effects_reply]
  split
  · rfl
  · rw [List.append_nil]

/-- What giving up the link does to the world outside. -/
lemma effects_dropLink (t : Turn σ) :
    t.dropLink.outbox.effects = t.outbox.effects ++ t.session.link.toList.map .closed := by
  unfold dropLink
  dsimp only [stopHeartbeat]
  cases t.session.link with
  | none => simp
  | some link => rfl

/-- What giving up everything does to the world outside. -/
lemma effects_tearDown (t : Turn σ) :
    t.tearDown.outbox.effects = t.outbox.effects ++
      (if t.session.attempt.isSome then [.abandoned] else []) ++
      t.session.waiters.map (.replied · (.error .disconnected)) ++
      t.session.link.toList.map .closed := by
  have hlink : t.stopHeartbeat.cancelRetry.abandon.session.link = t.session.link :=
    congrArg Connection.link (connection_abandon t.stopHeartbeat.cancelRetry)
  rw [tearDown, effects_dropLink, hlink, effects_abandon]
  rfl

/-- To give up everything does not concern those who watch. -/
lemma publisher_tearDown (t : Turn σ) :
    t.tearDown.session.publisher = t.session.publisher := by
  have habandon : t.stopHeartbeat.cancelRetry.abandon.session.publisher =
      t.session.publisher := by
    unfold abandon
    dsimp only [resolve, reply]
    split <;> rfl
  unfold tearDown dropLink
  dsimp only
  split <;> exact habandon

/-- The loss of a link adds to the effects. -/
lemma effects_lose (m : Moment) (t : Turn σ) :
    ∃ extra, (t.lose m).outbox.effects = t.outbox.effects ++ extra := by
  have hdrop := effects_dropLink t
  unfold lose retry
  split
  · rw [effects_publish, hdrop, List.append_assoc]
    exact ⟨_, rfl⟩
  · have hpublish := effects_publish m .reconnecting { t.dropLink with
      session := { t.dropLink.session with
        backoff := t.dropLink.session.backoff.next.2, rejoins := true } }
    rw [hdrop, List.append_assoc] at hpublish
    exact ⟨_, hpublish⟩

end Turn

/-! ### Texts and closes -/

/-- What an effect writes on a link, with the number of the link. -/
def Effect.stroke? : Effect → Option (Nat × Transport.Outbound)
  | .wrote link e => some (link, .text e.encode)
  | .closed link => some (link, .close)
  | _ => none

namespace Outbox

/-- What was written on links so far, texts and closes alike. -/
def strokes (o : Outbox) : List (Nat × Transport.Outbound) :=
  o.effects.filterMap Effect.stroke?

/-- No text was written after a close. -/
def TextsFirst (o : Outbox) : Prop :=
  ∃ texts closes, o.effects = texts ++ closes ∧ texts.filterMap Effect.closing? = [] ∧
    closes.filterMap Effect.frame? = []

variable {o o' : Outbox}

/-- Without a text there is none after a close. -/
lemma TextsFirst.of_frames (h : o.frames = []) : o.TextsFirst :=
  ⟨[], o.effects, rfl, rfl, h⟩

/-- Without a close there is no text after it. -/
lemma TextsFirst.of_closed (h : o.said.closed = []) : o.TextsFirst :=
  ⟨o.effects, [], (List.append_nil _).symm, h, rfl⟩

/-- To add effects that are no texts leaves no text after a close. -/
lemma TextsFirst.of_append (hclosed : o.said.closed = []) {extra : List Effect}
    (heffects : o'.effects = o.effects ++ extra) (hframes : o'.frames = o.frames) :
    o'.TextsFirst := by
  refine ⟨o.effects, extra, heffects, hclosed, ?_⟩
  have hlength := congrArg List.length hframes
  rw [frames, frames, heffects, List.filterMap_append, List.length_append] at hlength
  exact List.length_eq_zero_iff.1 (by omega)

/-- Effects without a close write texts only. -/
lemma strokes_of_frames {effects : List Effect} (h : effects.filterMap Effect.closing? = []) :
    effects.filterMap Effect.stroke? =
      (effects.filterMap Effect.frame?).map fun f => (f.1, .text f.2.encode) := by
  rw [List.map_filterMap]
  refine List.filterMap_congr fun effect heffect => ?_
  have hnone := List.filterMap_eq_nil_iff.1 h effect heffect
  cases effect with
  | closed link => cases hnone
  | _ => rfl

/-- Effects without a text write closes only. -/
lemma strokes_of_closes {effects : List Effect} (h : effects.filterMap Effect.frame? = []) :
    effects.filterMap Effect.stroke? =
      (effects.filterMap Effect.closing?).map fun link => (link, .close) := by
  rw [List.map_filterMap]
  refine List.filterMap_congr fun effect heffect => ?_
  have hnone := List.filterMap_eq_nil_iff.1 h effect heffect
  cases effect with
  | wrote link e => cases hnone
  | _ => rfl

/-- **Texts before closes.** If no text was written after a close, the texts are the envelopes that
were written, and the closes come after them.

**Proof sketch.** What was done falls into a part with no close and a part with no text. The first
has the texts of all envelopes that were written, and the second all closes. -/
lemma strokes_eq (h : o.TextsFirst) :
    o.strokes = (o.frames.map fun f => (f.1, .text f.2.encode)) ++
      o.said.closed.map fun link => (link, .close) := by
  obtain ⟨texts, closes, heffects, htexts, hcloses⟩ := h
  have hclosed : o.said.closed = closes.filterMap Effect.closing? := by
    show o.effects.filterMap Effect.closing? = _
    rw [heffects, List.filterMap_append, htexts, List.nil_append]
  rw [hclosed, strokes, frames, heffects, List.filterMap_append, List.filterMap_append, hcloses,
    strokes_of_frames htexts, strokes_of_closes hcloses, List.append_nil]

end Outbox

namespace Turn

variable {σ : Type} {t : Turn σ}

/-- The loss of a link writes no text. -/
lemma textsFirst_lose (h : t.outbox.said.closed = []) (m : Moment) :
    (t.lose m).outbox.TextsFirst := by
  obtain ⟨extra, heffects⟩ := effects_lose m t
  exact .of_append h heffects (quiet_lose m t).frames

variable [Storage σ]

/-- To send an envelope writes no text after a close.

**Proof sketch.** One case for each way that an envelope can go. Only a link that refuses it is
closed, and the close is the last thing done. -/
lemma textsFirst_route (h : t.outbox.said.closed = []) (m : Moment) (e : Envelope) :
    (t.route m e).outbox.TextsFirst := by
  rcases route_cases m e t with ⟨link, -, -, hroute⟩ | ⟨link, -, -, hroute⟩ | ⟨-, -, hroute⟩ |
    ⟨-, -, hroute⟩ <;> rw [hroute]
  · refine .of_closed ?_
    rw [Outbox.said_add]
    exact h
  · exact textsFirst_lose (t := keep m e { t with
      outbox := { t.outbox with offers := t.outbox.offers + 1 } }) h m
  · exact .of_closed h
  · exact .of_closed h

/-- To write all that waits writes no text after a close.

**Proof sketch.** The two queues are written out one after the other, and none of this closes
anything. The link is closed only when one of the two has stopped, and then nothing more is
written. -/
lemma textsFirst_flush (h : t.outbox.said.closed = []) (m : Moment) :
    (t.flush m).2.outbox.TextsFirst := by
  unfold flush
  split
  · exact .of_closed h
  · next link _ =>
    have hpending := congrArg (·.said.closed) (report_drainPending m link t)
    split
    · next t₁ heq =>
      rw [heq] at hpending
      exact textsFirst_lose (t := t₁.spillAhead m) (hpending.trans h) m
    · next t₁ heq =>
      rw [heq] at hpending
      have hoffline := congrArg (·.said.closed) (report_drainOffline m link t₁)
      split
      · next t₂ heq' =>
        rw [heq'] at hoffline
        exact textsFirst_lose (t := t₂.spillAhead m) (hoffline.trans (hpending.trans h)) m
      · next t₂ heq' =>
        rw [heq'] at hoffline
        exact .of_closed (hoffline.trans (hpending.trans h))

/-- To join the room again writes no text after a close. -/
lemma textsFirst_rejoin (h : t.outbox.said.closed = []) (m : Moment) :
    (t.rejoin m).outbox.TextsFirst := by
  rw [rejoin_eq]
  rcases rejoining_cases m t.session with hnone | ⟨e, hone⟩
  · rw [hnone]
    exact .of_closed h
  · rw [hone]
    exact textsFirst_route (t := { t with session := { t.session with rejoins := false } }) h m e

/-- **A new link is closed at last if at all.** To open a link writes no text after a close: the
link is closed at last, if it does not take all that is written on it.

**Proof sketch.** The answers come first, and write nothing. If the flush has been stopped the close
is its last step. Otherwise it has closed nothing, and only the rejoin is left, which closes if it
is refused. -/
lemma textsFirst_succeed (h : t.outbox.said.closed = []) (m : Moment) (credential : String) :
    (t.succeed m credential).outbox.TextsFirst := by
  have hwelcome : (t.welcome m credential).outbox.said.closed = [] :=
    (congrArg (·.said.closed) (report_welcome m credential t)).trans h
  have hlink : (t.welcome m credential).session.link.isSome :=
    Option.isSome_iff_exists.2
      ⟨_, congrArg Connection.link (connection_welcome m credential t)⟩
  have hflush := report_flush m hlink
  have hfirst := textsFirst_flush hwelcome m
  unfold succeed
  obtain ⟨kept, t', heq⟩ : ∃ kept t', (t.welcome m credential).flush m = (kept, t') := ⟨_, _, rfl⟩
  rw [heq] at hflush hfirst ⊢
  cases kept with
  | false => exact hfirst
  | true =>
    have hsame : t'.outbox.said.closed = (t.welcome m credential).outbox.said.closed :=
      congrArg (·.said.closed) hflush
    exact textsFirst_rejoin (hsame.trans hwelcome) m

end Turn

end Messenger.Session
