import Messenger.Proofs.Session.Account
import Messenger.Proofs.Session.Connection

set_option relaxedAutoImplicit false
set_option autoImplicit false

/-!
# Opening a link

A new link is offered all that waits, first what is in memory, then what is in storage, and at last
joining the room again if that is due. It takes these envelopes as it would take one list: some part
at the front is written, and the rest waits in storage.

## Main definitions

* `Messenger.Session.Turn.Offered`: envelopes have been offered to a new link.

## Main results

* `Messenger.Session.Turn.offered_succeed`: all that waits is offered to a new link, and then
  joining the room again.
-/

namespace Messenger.Session

/-! ### Accounts -/

/-- What a link takes of all that waits and of an envelope behind it, if it takes all that waits, it
takes in two steps.

**Proof sketch.** As one list, `Moment.takes_add` splits the envelopes in what waits and the one
behind it. -/
lemma Account.flush_keep {m : Moment} {a : Account}
    (h : m.takes a.offers (a.pending ++ a.stored).length = (a.pending ++ a.stored).length)
    (link : Nat) (e : Envelope) : (a.keep e).flush m link = (a.flush m link).offer m link e := by
  obtain ⟨L, hL⟩ : ∃ L, L = a.pending ++ a.stored := ⟨_, rfl⟩
  have hkeep : (a.keep e).pending ++ (a.keep e).stored = L ++ [e] := by
    rw [hL]
    exact (List.append_assoc _ _ _).symm
  rw [← hL] at h
  have hadd := m.takes_add a.offers L.length 1
  rw [if_pos h] at hadd
  unfold Account.flush Account.offer
  rw [hkeep, ← hL]
  simp only [Account.take, Account.keep, List.length_append, List.length_singleton, hadd, h,
    List.take_length_add_append, List.drop_length_add_append, List.take_length, List.drop_length]
  rw [show a.offers + min (L.length + 1) L.length = a.offers + L.length by omega]
  by_cases he : m.accepts (a.offers + L.length)
  · simp [Moment.takes, he, Nat.add_assoc]
  · simp [Moment.takes, he, Nat.add_assoc]

/-- A link that takes all that waits has been offered all that waits. -/
lemma Account.offers_flush {m : Moment} {a : Account}
    (h : m.takes a.offers (a.pending ++ a.stored).length = (a.pending ++ a.stored).length)
    (link : Nat) : (a.flush m link).offers = a.offers + (a.pending ++ a.stored).length := by
  simp only [Account.flush, Account.take, h]
  omega

namespace Turn

variable {σ : Type} {t : Turn σ}

/-! ### Queues that stay shown -/

/-- A quiet step neither shows nor hides the queue. -/
lemma Quiet.detached_eq {t t' : Turn σ} (h : t.Quiet t') :
    t'.session.offline.detached = t.session.offline.detached :=
  congrArg Queue.Offline.detached h.offline

variable [Storage σ]

/-- A queue that is shown stays so when what waits in memory moves there. -/
lemma shown_spill {t : Turn σ} (h : t.session.offline.detached = false) (m : Moment) :
    (t.spill m).session.offline.detached = false := by
  show (t.session.offline.extend m.stamp t.session.pending.items t.store).1.detached = false
  rw [Queue.Offline.detached_extend, h, Bool.and_false]

/-- A queue that is shown stays so when a link breaks off. -/
lemma shown_breakOff (h : t.session.offline.detached = false) (m : Moment) :
    (t.breakOff m).session.offline.detached = false := by
  rw [breakOff, (quiet_lose m _).detached_eq]
  show (t.session.offline.prepend m.stamp t.session.pending.items t.store).1.detached = false
  rw [Queue.Offline.detached_prepend, h, Bool.and_false]

/-- A queue that is shown stays so when all that waits is written. -/
lemma shown_flush (h : t.session.offline.detached = false) (m : Moment) :
    (t.flush m).2.session.offline.detached = false :=
  flush_invariant (P := fun t => t.session.offline.detached = false) m (fun _ _ h => h)
    (fun _ link h => (account_drainOffline m link m.stamp h).2.2) (fun _ h => shown_breakOff h m) h

/-- After an envelope was sent the queue is shown, unless it has been left alone because there was a
link or an attempt. -/
lemma shown_or_same_route (m : Moment) (e : Envelope) (t : Turn σ) :
    (t.route m e).session.offline.detached = false ∨
      ((t.route m e).session.offline = t.session.offline ∧
        (t.session.link.isSome ∨ t.session.attempt.isSome)) := by
  rcases route_cases m e t with ⟨link, hlink, -, hroute⟩ | ⟨link, -, -, hroute⟩ |
    ⟨-, hattempt, hroute⟩ | ⟨-, -, hroute⟩ <;> rw [hroute]
  · exact .inr ⟨rfl, .inl (Option.isSome_iff_exists.2 ⟨link, hlink⟩)⟩
  · rw [(quiet_lose m _).detached_eq]
    exact .inl (Queue.Offline.detached_push m.stamp e t.session.offline t.store)
  · exact .inr ⟨rfl, .inr hattempt⟩
  · exact .inl (Queue.Offline.detached_push m.stamp e t.session.offline t.store)

/-- A queue that is shown stays so when an envelope is sent. -/
lemma shown_route (h : t.session.offline.detached = false) (m : Moment) (e : Envelope) :
    (t.route m e).session.offline.detached = false := by
  rcases shown_or_same_route m e t with hshown | ⟨hsame, -⟩
  · exact hshown
  · rw [hsame]
    exact h

/-- A queue that is shown stays so when the room is joined again. -/
lemma shown_rejoin (h : t.session.offline.detached = false) (m : Moment) :
    (t.rejoin m).session.offline.detached = false := by
  rw [rejoin_eq]
  rcases rejoining_cases m t.session with hnone | ⟨e, hone⟩
  · rw [hnone]
    exact h
  · rw [hone]
    exact shown_route (t := { t with session := { t.session with rejoins := false } }) h m e

/-- A queue that is shown stays so when a link is opened. -/
lemma shown_succeed (h : t.session.offline.detached = false) (m : Moment) (credential : String) :
    (t.succeed m credential).session.offline.detached = false := by
  have hwelcome : (t.welcome m credential).session.offline.detached = false :=
    (quiet_welcome m credential t).detached_eq.trans h
  exact succeed_invariant (P := fun t => t.session.offline.detached = false) m
    (fun h => shown_flush h m) (fun _ h => shown_rejoin h m) hwelcome

/-! ### What is taken -/

/-- Where the envelope goes by which the room is joined again. -/
lemma account_rejoin (m : Moment) {link : Nat} (hlink : t.session.link = some link) :
    (t.rejoin m).account m.stamp =
      (t.session.rejoining m).foldl (fun a e => a.offer m link e) (t.account m.stamp) := by
  have hready : t.Quiet { t with session := { t.session with rejoins := false } } :=
    quiet_session t rfl rfl rfl rfl
  rw [rejoin_eq]
  rcases rejoining_cases m t.session with hnone | ⟨e, hone⟩
  · rw [hnone]
    exact hready.account_eq m.stamp
  · have hroute := account_route m e { t with session := { t.session with rejoins := false } }
    rw [hready.account_eq] at hroute
    rw [hone]
    simpa [hlink, Account.route] using hroute

/-- What waits in memory and in storage does not touch the room. -/
lemma room_flush (m : Moment) (t : Turn σ) : (t.flush m).2.session.room = t.session.room :=
  flush_invariant (P := fun t' => t'.session.room = t.session.room) m (fun _ _ h => h)
    (fun _ _ h => h) (fun t' h => (quiet_lose m (t'.spillAhead m)).room.trans h) rfl

/-- A new link takes all that waits, and then the room is joined again; or it does not, and then it
is lost.

**Proof sketch.** The welcome is quiet, so that the new link is offered what waited before. -/
lemma succeed_cases (hshown : t.session.offline.detached = false) (hoffers : t.outbox.offers = 0)
    (m : Moment) (credential : String) :
    ((∀ i < t.session.waiting.length, m.accepts i) ∧
      ∃ t' : Turn σ, t.succeed m credential = t'.rejoin m ∧
        t'.session.connection = t.session.connection.welcome m.clock credential ∧
        t'.session.rejoining m = t.session.rejoining m ∧
        t'.account m.stamp = (t.account m.stamp).flush m t.session.opened) ∨
    ((¬ ∀ i < t.session.waiting.length, m.accepts i) ∧
      (t.succeed m credential).account m.stamp = (t.account m.stamp).flush m t.session.opened ∧
      ∃ due, (t.succeed m credential).session.connection =
        (t.session.connection.welcome m.clock credential).lose due) := by
  have hquiet := quiet_welcome m credential t
  have hconnection := connection_welcome m credential t
  obtain ⟨t₁, ht₁⟩ : ∃ t₁, t₁ = t.welcome m credential := ⟨_, rfl⟩
  rw [← ht₁] at hquiet hconnection
  have hlink : t₁.session.link = some t.session.opened := congrArg Connection.link hconnection
  have hwaiting : t₁.session.waiting = t.session.waiting := by
    rw [waiting, waiting, hquiet.pending, hquiet.offline]
  obtain ⟨hflush, hall⟩ := account_flush m hlink (hquiet.detached_eq.trans hshown)
  obtain ⟨due, hafter⟩ := connection_flush m (t := t₁) (by simp [hlink])
  have hroom := room_flush m t₁
  rw [hquiet.account_eq] at hflush
  rw [hwaiting, hquiet.offers, hoffers, Moment.takes_eq_iff] at hall
  simp only [Nat.zero_add] at hall
  rw [hconnection] at hafter
  unfold succeed
  rw [← ht₁]
  obtain ⟨done, t₂, ht₂⟩ : ∃ done t₂, t₁.flush m = (done, t₂) := ⟨_, _, rfl⟩
  rw [ht₂] at hflush hall hafter hroom ⊢
  cases done with
  | false => exact .inr ⟨fun h => by simpa using hall.2 h, hflush, due, hafter⟩
  | true =>
    have hrejoins : t₂.session.rejoins = t.session.rejoins := congrArg Connection.rejoins hafter
    have hrejoining : t₂.session.rejoining m = t.session.rejoining m := by
      rw [rejoining, rejoining, hrejoins, hroom, hquiet.room]
    exact .inl ⟨hall.1 rfl, t₂, rfl, hafter, hrejoining, hflush⟩

/-- What waits is offered to a new link, in this order. -/
lemma account_waiting (hshown : t.session.offline.detached = false) (m : Moment) :
    (t.account m.stamp).pending ++ (t.account m.stamp).stored = t.session.waiting := by
  rw [waiting, account, Queue.Offline.contents_of_shown hshown]

/-- What a new link takes of all that waits and of joining the room again, and what is left.

**Proof sketch.** By whether the link takes all that waits (`succeed_cases`). If it does, joining
the room comes behind, and to offer that after the flush is to offer it as the last of one list
(`Account.flush_keep`). If it does not, there is nothing behind. -/
lemma account_succeed (hshown : t.session.offline.detached = false) (hoffers : t.outbox.offers = 0)
    (m : Moment) (credential : String) {es : List Envelope}
    (hes : es = t.session.waiting ++ t.session.followUp m) :
    (t.succeed m credential).account m.stamp =
      { pending := []
        stored := es.drop (m.takes 0 es.length)
        frames := t.outbox.frames ++
          (es.take (m.takes 0 es.length)).map (t.session.opened, ·)
        offers := min (m.takes 0 es.length + 1) es.length } := by
  have hzero : (t.account m.stamp).offers = 0 := hoffers
  have hall : ∀ a : Account, a.offers = 0 → a.pending ++ a.stored = es →
      a.frames = t.outbox.frames → a.flush m t.session.opened = ⟨[], es.drop (m.takes 0 es.length),
        t.outbox.frames ++ (es.take (m.takes 0 es.length)).map (t.session.opened, ·),
        min (m.takes 0 es.length + 1) es.length⟩ := by
    intro a ha hwait hframes
    simp only [Account.flush, Account.take, hwait, ha, hframes, Nat.zero_add]
  rcases succeed_cases hshown hoffers m credential with
    ⟨htaken, t', hsucceed, hconnection, hrejoining, hflush⟩ | ⟨hnot, hflush, -⟩
  · have hlink : t'.session.link = some t.session.opened := congrArg Connection.link hconnection
    rw [followUp_of_taken htaken] at hes
    rw [hsucceed, account_rejoin m hlink, hrejoining, hflush]
    rcases rejoining_cases m t.session with hnone | ⟨e, hone⟩
    · rw [hnone, List.append_nil] at hes
      rw [hnone, List.foldl_nil]
      exact hall _ hzero ((account_waiting hshown m).trans hes.symm) rfl
    · rw [hone] at hes
      rw [hone, List.foldl_cons, List.foldl_nil, ← Account.flush_keep]
      · refine hall ((t.account m.stamp).keep e) hzero ?_ rfl
        rw [hes, ← account_waiting hshown m]
        exact (List.append_assoc _ _ _).symm
      · rw [account_waiting hshown, hzero, Moment.takes_eq_iff]
        simpa using htaken
  · rw [followUp_of_refused hnot, List.append_nil] at hes
    rw [hflush]
    exact hall _ hzero ((account_waiting hshown m).trans hes.symm) rfl

/-- After a link was opened no attempt is under way, one link more has been opened, and the link is
still there if it took all that it was offered.

**Proof sketch.** If the link refuses some of what waits, it is lost by that. If not, the room is
joined again with the frame behind those, and the link is lost if it refuses that one. -/
lemma connection_succeed (hshown : t.session.offline.detached = false)
    (hoffers : t.outbox.offers = 0) (m : Moment) (credential : String) {es : List Envelope}
    (hes : es = t.session.waiting ++ t.session.followUp m) :
    (t.succeed m credential).session.connection.attempt = none ∧
      (t.succeed m credential).session.connection.opened = t.session.opened + 1 ∧
      (t.succeed m credential).session.connection.link =
        if m.takes 0 es.length = es.length then some t.session.opened else none := by
  have htakes : m.takes 0 t.session.waiting.length = t.session.waiting.length ↔
      ∀ i < t.session.waiting.length, m.accepts i := by
    rw [Moment.takes_eq_iff]
    simp
  rcases succeed_cases hshown hoffers m credential with
    ⟨hall, t', hsucceed, hconnection, hrejoining, hflush⟩ | ⟨hnot, -, due, hlost⟩
  · have hlink : t'.session.link = some t.session.opened := congrArg Connection.link hconnection
    have hoffers' : t'.outbox.offers = t.session.waiting.length := by
      have hzero : (t.account m.stamp).offers = 0 := hoffers
      have hsame : t'.outbox.offers = ((t.account m.stamp).flush m t.session.opened).offers :=
        congrArg Account.offers hflush
      rw [hsame, Account.offers_flush, account_waiting hshown, hzero, Nat.zero_add]
      rw [account_waiting hshown, hzero]
      exact htakes.2 hall
    obtain ⟨due, hrejoin⟩ := connection_rejoin m (t := t') (by simp [hlink])
    rw [hsucceed, hrejoin, hrejoining, hoffers', hconnection]
    rw [followUp_of_taken hall] at hes
    rcases rejoining_cases m t.session with hnone | ⟨e, hone⟩
    · rw [hnone, List.append_nil] at hes
      rw [hnone, hes, if_pos (htakes.2 hall)]
      exact ⟨rfl, rfl, rfl⟩
    · rw [hone] at hes
      have hadd := m.takes_add 0 t.session.waiting.length 1
      rw [if_pos (htakes.2 hall), Nat.zero_add] at hadd
      rw [hone, hes, List.length_append, List.length_singleton, hadd]
      by_cases he : m.accepts t.session.waiting.length
      · simp only [Moment.takes, he, not_true, and_false, if_false, if_true]
        exact ⟨rfl, rfl, rfl⟩
      · simp only [Moment.takes, he]
        simp [Connection.welcome, connection]
  · rw [followUp_of_refused hnot, List.append_nil] at hes
    rw [hlost, hes, if_neg (fun h => hnot (htakes.1 h))]
    simp [Connection.welcome, connection]

/-- Envelopes have been offered to a new link: some part at the front has been written, the rest
waits in storage, and the link is still there if it took them all. -/
structure Offered (m : Moment) (es : List Envelope) (t t' : Turn σ) : Prop where
  frames : t'.outbox.frames =
    t.outbox.frames ++ (es.take (m.takes 0 es.length)).map (t.session.opened, ·)
  offers : t'.outbox.offers = min (m.takes 0 es.length + 1) es.length
  pending : t'.session.pending.items = []
  items : t'.session.offline.items = es.drop (m.takes 0 es.length)
  shown : t'.session.offline.detached = false
  attempt : t'.session.attempt = none
  opened : t'.session.opened = t.session.opened + 1
  link : t'.session.link =
    if m.takes 0 es.length = es.length then some t.session.opened else none

/-- **A new link is offered one list.** All that waits is offered to a new link, and joining the
room again if the link gets so far.

**Proof sketch.** What the account says of memory, storage and frames (`account_succeed`), and what
becomes of the connection (`connection_succeed`). The queue is shown, so that what is in storage is
what it has. -/
lemma offered_succeed (hshown : t.session.offline.detached = false) (hoffers : t.outbox.offers = 0)
    (m : Moment) (credential : String) {es : List Envelope}
    (hes : es = t.session.waiting ++ t.session.followUp m) :
    t.Offered m es (t.succeed m credential) := by
  have haccount := account_succeed hshown hoffers m credential hes
  have hshown' := shown_succeed hshown m credential
  obtain ⟨hattempt, hopened, hlink⟩ := connection_succeed hshown hoffers m credential hes
  refine ⟨congrArg Account.frames haccount, congrArg Account.offers haccount,
    congrArg Account.pending haccount, ?_, hshown', hattempt, hopened, hlink⟩
  rw [← Queue.Offline.contents_of_shown hshown' m.stamp (t.succeed m credential).store]
  exact congrArg Account.stored haccount

end Turn

end Messenger.Session
