import Messenger.Proofs.Address.Form
import Messenger.Proofs.Session.History
import Messenger.Proofs.Session.Move

set_option relaxedAutoImplicit false
set_option autoImplicit false

/-!
# Where credentials come from

Attempts are begun by the user or on their own, and go on with credentials that come from the user,
from the provider or from an earlier link. Which one an attempt goes on with is told by the event
that began it. An attempt that has begun on its own never goes on with an old one.

## Main definitions

* `Messenger.Settings.Target.Carries`: an address carries a credential as its token.
* `Messenger.Session.Record.Entitled`: a credential is the right one for an attempt.
* `Messenger.Session.Informed`: what a session knows goes back to events of the past.

## Main results

* `Messenger.Session.informed_step`: every event keeps that.
* `Messenger.Session.credentials_run`: an address carries the right credential, an attempt on its
  own fails without one from the provider, and the credential of a link is the one it was opened
  with.
-/

namespace Messenger

/-- An address carries a credential as its token: that is the only pair of its query. -/
def Settings.Target.Carries (target : Settings.Target) (address : Address) (credential : String) :
    Prop :=
  Address.Form.pairs? address.query = some [(target.tokenParam, credential)]

/-- The address that is made with a credential carries it. -/
lemma Settings.Target.carries_addressFor (target : Settings.Target) (credential : String) :
    target.Carries (target.addressFor credential) credential :=
  Address.Form.pairs?_encodePair target.tokenParam credential

namespace Session

/-! ### Moves -/

/-- An attempt goes on with the credential of the provider, or with the other one if the provider
has none. -/
lemma of_choose {answer : Credential.Answer} {other : Option String} {credential : String}
    (h : choose answer other = .ok credential) :
    answer = .ok (some credential) ∨
      (∀ given, answer ≠ .ok (some given)) ∧ other = some credential := by
  unfold choose at h
  split at h
  · exact .inl (by rw [Except.ok.inj h])
  · exact .inr ⟨by simp, by rw [Except.ok.inj h]⟩
  · exact .inr ⟨by simp, by rw [Except.ok.inj h]⟩
  · cases h
  · cases h

namespace Move

variable {m : Moment} {s : Session} {event : Event} {r : Report}

/-- Where connections are opened is always the same. -/
lemma target_eq (h : Move m s event r) : r.target = s.target := by
  cases h with
  | hears text link =>
    obtain ⟨heartbeat, delivered, hear, -⟩ := Report.hear_eq m text (s.report .nothing)
    rw [hear]
    rfl
  | _ => rfl

/-- An attempt that asks the provider did so before, or has just begun.

**Proof sketch.** One case for each thing that an event can do. Two of them begin an attempt that
asks; those that end an attempt or lose the link leave none that asks; all others leave the attempt
as it was. -/
lemma of_asking (hc : s.connection.Coherent) (h : Move m s event r) {other : Option String}
    (hasking : r.connection.attempt = some (.asking other)) :
    r.said.dialed = [] ∧ r.lastCredential = s.lastCredential ∧
      ((s.attempt = some (.asking other) ∧ r.backoff = s.backoff) ∨
        (s.attempt = none ∧
          ((event.Resumes ∧ other = none ∧ r.backoff = s.backoff) ∨
            ((∃ caller, event = .command (.reconnect caller)) ∧ other = s.lastCredential)))) := by
  cases h with
  | asks caller attempt link =>
    cases hasking
    exact ⟨rfl, rfl, .inr ⟨attempt, .inr ⟨⟨caller, rfl⟩, rfl⟩⟩⟩
  | resumes h due =>
    cases hasking
    exact ⟨rfl, rfl, .inr ⟨(hc.of_retryAt due).2.1, .inl ⟨h, rfl, rfl⟩⟩⟩
  | calls => cases hasking
  | dials => cases hasking
  | fails e failure =>
    rw [Report.attempt_fail] at hasking
    cases hasking
  | opens => cases hasking
  | breaks =>
    rw [Report.attempt_lose] at hasking
    cases hasking
  | loses link broken =>
    have hattempt : s.attempt = none := (hc.of_link link).2.1
    rw [Report.attempt_lose] at hasking
    cases hattempt.symm.trans hasking
  | logsOut => cases hasking
  | hears text link =>
    obtain ⟨heartbeat, delivered, hear, -⟩ := Report.hear_eq m text (s.report .nothing)
    rw [hear] at hasking ⊢
    exact ⟨rfl, rfl, .inl ⟨hasking, rfl⟩⟩
  | _ => exact ⟨rfl, rfl, .inl ⟨hasking, rfl⟩⟩

/-- An attempt that connects to an address did so before, or has just been given that address.

**Proof sketch.** The same cases. Two of them call the server, and all others that leave an attempt
of this kind have met it. -/
lemma of_dialing (h : Move m s event r) {credential : String} {deadline : Nat}
    (hdialing : r.connection.attempt = some (.dialing credential deadline)) :
    s.attempt = some (.dialing credential deadline) ∨
      r.said.dialed = [s.target.addressFor credential] := by
  cases h with
  | asks => cases hdialing
  | resumes => cases hdialing
  | calls =>
    cases hdialing
    exact .inr rfl
  | dials =>
    cases hdialing
    exact .inr rfl
  | fails e failure =>
    rw [Report.attempt_fail] at hdialing
    cases hdialing
  | opens => cases hdialing
  | breaks =>
    rw [Report.attempt_lose] at hdialing
    cases hdialing
  | loses link broken =>
    rw [Report.attempt_lose] at hdialing
    exact .inl hdialing
  | logsOut => cases hdialing
  | hears text link =>
    obtain ⟨heartbeat, delivered, hear, -⟩ := Report.hear_eq m text (s.report .nothing)
    rw [hear] at hdialing
    exact .inl hdialing
  | _ => exact .inl hdialing

/-- The credential of the last link is what it was, unless a new link has been opened.

**Proof sketch.** The same cases. Only a link that is opened changes it, and no other thing can be
done by that event while an address is being connected to. -/
lemma lastCredential_eq (h : Move m s event r) :
    (r.lastCredential = s.lastCredential ∧ ¬ (event = .opened ∧ s.Dialing)) ∨
      ∃ credential deadline, event = .opened ∧
        s.attempt = some (.dialing credential deadline) ∧ r.lastCredential = some credential := by
  cases h with
  | opens credential deadline attempt => exact .inr ⟨credential, deadline, rfl, attempt, rfl⟩
  | breaks credential deadline attempt => exact .inr ⟨credential, deadline, rfl, attempt, rfl⟩
  | passes h =>
    refine .inl ⟨rfl, ?_⟩
    rintro ⟨rfl, hdialing⟩
    exact h hdialing
  | grants asker granted =>
    refine .inl ⟨rfl, ?_⟩
    rintro ⟨rfl, -⟩
    cases asker
  | resumes h due =>
    refine .inl ⟨rfl, ?_⟩
    rintro ⟨rfl, -⟩
    exact h
  | fails e failure =>
    refine .inl ⟨rfl, ?_⟩
    rintro ⟨rfl, -⟩
    cases failure
  | loses link broken =>
    refine .inl ⟨rfl, ?_⟩
    rintro ⟨rfl, -⟩
    exact broken
  | hears text link =>
    obtain ⟨heartbeat, delivered, hear, -⟩ := Report.hear_eq m text (s.report .nothing)
    rw [hear]
    exact .inl ⟨rfl, by simp⟩
  | _ => exact .inl ⟨rfl, by simp⟩

/-- An address is connected to by a caller who begins an attempt, or after the answer of the
provider.

**Proof sketch.** Of all that an event can do two things call the server. -/
lemma of_dialed (h : Move m s event r) {address : Address} (hdialed : address ∈ r.said.dialed) :
    ∃ credential, address = s.target.addressFor credential ∧
      ((∃ caller, event = .command (.connect credential caller) ∧ s.attempt = none ∧
          r.connection.attempt.isSome) ∨
        ∃ answer other, event = .acquired answer ∧ s.attempt = some (.asking other) ∧
          choose answer other = .ok credential) := by
  cases h with
  | calls credential caller deadline attempt other =>
    exact ⟨credential, List.mem_singleton.1 hdialed, .inl ⟨caller, rfl, attempt, rfl⟩⟩
  | dials answer other credential deadline attempt choice =>
    exact ⟨credential, List.mem_singleton.1 hdialed, .inr ⟨answer, other, rfl, attempt, choice⟩⟩
  | hears text link =>
    obtain ⟨heartbeat, delivered, hear, -⟩ := Report.hear_eq m text (s.report .nothing)
    rw [hear] at hdialed
    cases hdialed
  | _ => cases hdialed

/-- An attempt without another credential fails if the provider has none.

**Proof sketch.** An answer that finds an attempt dials or fails, and it dials only with a
credential. -/
lemma of_refusal {answer : Credential.Answer} (h : Move m s (.acquired answer) r)
    (hasking : s.attempt = some (.asking none))
    (hrefused : ∀ credential, answer ≠ .ok (some credential)) :
    ∃ e, r = (s.report .nothing).fail m e := by
  cases h with
  | passes h => exact absurd hasking (h none)
  | grants asker granted => cases asker
  | resumes h due => exact h.elim
  | dials answer other credential deadline attempt choice =>
    obtain rfl : none = other := by simpa [hasking] using attempt
    rcases of_choose choice with hgiven | ⟨-, hother⟩
    · exact absurd hgiven (hrefused credential)
    · cases hother
  | fails e failure => exact ⟨e, rfl⟩
  | loses link broken => exact broken.elim

end Move

/-! ### Events of the past -/

namespace Record

variable {σ : Type}

/-- A link is opened by the event, with a credential. -/
def OpensWith (credential : String) (r : Record σ) : Prop :=
  r.event = .opened ∧ ∃ deadline, r.session.attempt = some (.dialing credential deadline)

variable [Storage σ]

/-- The addresses that are to be connected to by the event. -/
def dialed (r : Record σ) : List Address :=
  r.turn.outbox.said.dialed

/-- An attempt is begun by the event. -/
def Starts (r : Record σ) : Prop :=
  r.session.attempt = none ∧ r.turn.session.attempt.isSome

/-- The attempt that is under way is still under way after the event. -/
def GoesOn (r : Record σ) : Prop :=
  r.session.attempt.isSome ∧ r.turn.session.attempt.isSome

/-- An attempt is begun by the event on its own: by the timer of the next attempt, or by waking
up. -/
def StartsAlone (r : Record σ) : Prop :=
  r.event.Resumes ∧ r.Starts

/-- An attempt is begun by the event because a caller wants to connect anew. -/
def StartsAnew (r : Record σ) : Prop :=
  (∃ caller, r.event = .command (.reconnect caller)) ∧ r.Starts

/-- The event calls a server at an address that carries a credential. -/
def Calls (target : Settings.Target) (credential : String) (r : Record σ) : Prop :=
  ∃ address, r.dialed = [address] ∧ target.Carries address credential

/-- A credential is the right one for the attempt that calls the server by an event, in view of what
has happened before. -/
inductive Entitled (past : List (Record σ)) (credential : String) (r : Record σ) : Prop
  /-- The caller who begins the attempt gives it. -/
  | caller (caller : Nat) (event : r.event = .command (.connect credential caller))
      (starts : r.Starts)
  /-- The attempt has begun on its own, and the provider gives it in the course of it. -/
  | provider (event : r.event = .acquired (.ok (some credential)))
      (since : Since (fun _ x => x.StartsAlone) GoesOn past)
  /-- The attempt was begun by a caller who wanted to connect anew. The provider gives it in the
  course of the attempt, or it has none and the last link that was opened had this one. -/
  | fallback (answer : Credential.Answer) (event : r.event = .acquired answer)
      (since : Since (fun _ x => x.StartsAnew) GoesOn past)
      (credential : answer = .ok (some credential) ∨
        (∀ other, answer ≠ .ok (some other)) ∧
          Since (fun _ x => x.OpensWith credential) (fun x => ¬ x.Opens) past)

/-- The event begins the attempt that asks the provider in a session. -/
def Asks (s : Session) (other : Option String) (r : Record σ) : Prop :=
  r.dialed = [] ∧
    ((r.StartsAlone ∧ other = none ∧ r.session.backoff = s.backoff) ∨
      (r.StartsAnew ∧ other = s.lastCredential))

end Record

/-! ### Sessions that are informed -/

variable {σ : Type} [Storage σ]

/-- What a session knows of attempts and credentials goes back to events of the past. -/
structure Informed (target : Settings.Target) (past : List (Record σ)) (s : Session) : Prop where
  coherent : s.connection.Coherent
  target_eq : s.target = target
  asking : ∀ other, s.attempt = some (.asking other) →
    Since (fun _ x => x.Asks s other) (fun x => x.GoesOn ∧ x.dialed = []) past
  dialing : ∀ credential deadline, s.attempt = some (.dialing credential deadline) →
    Since (fun _ x => x.Calls target credential) Record.GoesOn past
  last : ∀ credential, s.lastCredential = some credential →
    Since (fun _ x => x.OpensWith credential) (fun x => ¬ x.Opens) past
  link : ∀ link, s.link = some link → ∃ credential, s.linkCredential = some credential ∧
    Since (fun before x => x.OpensWith credential ∧ x.session.opened = link ∧
      Since (fun _ x => x.Calls target credential) Record.GoesOn before) (Record.Holds link) past

/-- **A session knows nothing that no event of the past tells.** Every event keeps a session
informed.

**Proof sketch.** Each part of what a session knows is what it was, so that its event of the past
still counts, or it is new, and this event tells it: the attempt that asks (`Move.of_asking`), the
one that dials (`Move.of_dialing`), the credential of the last link (`Move.lastCredential_eq`) and
that of the link that is there (`Move.of_link`). -/
theorem informed_step {target : Settings.Target} {past : List (Record σ)} {r : Record σ}
    (h : Informed target past r.session) : Informed target (past ++ [r]) r.turn.session := by
  have hc := h.coherent
  have hmove := r.move hc
  refine ⟨r.coherent hc, hmove.target_eq.trans h.target_eq,
    ?_, ?_, ?_, ?_⟩
  -- The attempt that asks goes back to the event that began it.
  · intro other hasking
    obtain ⟨hdialed, hlast, ⟨hbefore, hbackoff⟩ | ⟨hnone, hstarts⟩⟩ := hmove.of_asking hc hasking
    · have hgoes : r.GoesOn := ⟨by rw [hbefore]; rfl, by rw [hasking]; rfl⟩
      have hbackoff : r.turn.session.backoff = r.session.backoff := hbackoff
      have hlast : r.turn.session.lastCredential = r.session.lastCredential := hlast
      refine ((h.asking other hbefore).concat ⟨hgoes, hdialed⟩).imp ?_ fun _ => id
      intro _ x hx
      rwa [Record.Asks, hbackoff, hlast]
    · have hbegins : r.Starts := ⟨hnone, by rw [hasking]; rfl⟩
      refine .last ⟨hdialed, ?_⟩
      rcases hstarts with ⟨hresumes, hother, hbackoff⟩ | ⟨hanew, hother⟩
      · exact .inl ⟨⟨hresumes, hbegins⟩, hother, hbackoff.symm⟩
      · exact .inr ⟨⟨hanew, hbegins⟩, hother.trans hlast.symm⟩
  -- The attempt that connects goes back to the call of its address.
  · intro credential deadline hdialing
    rcases hmove.of_dialing hdialing with hbefore | hcalls
    · exact (h.dialing credential deadline hbefore).concat
        ⟨by rw [hbefore]; rfl, by rw [hdialing]; rfl⟩
    · rw [h.target_eq] at hcalls
      exact .last ⟨_, hcalls, target.carries_addressFor credential⟩
  -- The last credential goes back to the link that was opened with it.
  · intro credential hlast
    rcases hmove.lastCredential_eq with ⟨hsame, hnot⟩ | ⟨opened, deadline, hevent, hattempt, hnew⟩
    · exact (h.last credential (hsame.symm.trans hlast)).concat (mt Record.opens_iff.1 hnot)
    · obtain rfl := Option.some.inj (hnew.symm.trans hlast)
      exact .last ⟨hevent, deadline, hattempt⟩
  -- The link goes back to the event that opened it.
  · intro link hlink
    rcases hmove.of_link hc hlink with ⟨hbefore, hsame⟩ |
      ⟨credential, deadline, hevent, hattempt, hopened, hnew⟩
    · obtain ⟨credential, hcredential, hsince⟩ := h.link link hbefore
      exact ⟨credential, hsame.trans hcredential, hsince.concat ⟨hbefore, hlink⟩⟩
    · exact ⟨credential, hnew, .last ⟨⟨hevent, deadline, hattempt⟩, hopened,
        h.dialing credential deadline hattempt⟩⟩

/-- A new session is informed, since it knows nothing. -/
lemma informed_start {settings : Settings} {target : Settings.Target} {began : Timestamp}
    {stored store : σ} {s : Session} (hstart : start began settings target stored = (s, store)) :
    Informed target ([] : List (Record σ)) s := by
  obtain ⟨rfl, rfl⟩ := Prod.ext_iff.1 hstart
  refine ⟨coherent_start began settings target stored, rfl, ?_, ?_, ?_, ?_⟩
  · intro other hasking
    cases hasking
  · intro credential deadline hdialing
    cases hdialing
  · intro credential hlast
    cases hlast
  · intro link hlink
    cases hlink

section Run

variable {settings : Settings} {target : Settings.Target} {began : Timestamp} {stored store : σ}
  {s : Session} {events : List (Moment × Event)}
  (hstart : start began settings target stored = (s, store))

include hstart

/-- A session is informed before every event of a run. -/
lemma informed_trace {before after : List (Record σ)} {r : Record σ}
    (htrace : trace events s store = before ++ r :: after) : Informed target before r.session :=
  history_trace (P := fun past s _ => Informed target past s)
    (fun _ _ _ h => informed_step h) (informed_start hstart) htrace

/-- The credential with which the server is called is the right one.

**Proof sketch.** The attempt was begun by the caller in this very event, with that credential, or
it has asked since an event of the past, which the session knows (`informed_trace`). If that began
on its own there is no credential to fall back on, so the provider has given one. -/
lemma entitled_of_dialed {before after : List (Record σ)} {r : Record σ}
    (htrace : trace events s store = before ++ r :: after) {address : Address}
    (hdialed : address ∈ r.dialed) :
    ∃ credential, target.Carries address credential ∧ r.Entitled before credential := by
  have hinformed := informed_trace hstart htrace
  have hmove := r.move hinformed.coherent
  obtain ⟨credential, rfl, hentitled⟩ := hmove.of_dialed hdialed
  refine ⟨credential, ?_, ?_⟩
  · rw [hinformed.target_eq]
    exact target.carries_addressFor credential
  · rcases hentitled with ⟨caller, hevent, hnone, hsome⟩ | ⟨answer, other, hevent, hasking, hchoice⟩
    · exact .caller caller hevent ⟨hnone, hsome⟩
    · obtain ⟨start, x, during, rfl, ⟨-, hbegins⟩, hduring⟩ := hinformed.asking other hasking
      have hgoes : ∀ y ∈ during, y.GoesOn := fun y hy => (hduring y hy).1
      rcases hbegins with ⟨halone, hother, -⟩ | ⟨hanew, hother⟩
      · rcases of_choose hchoice with hgiven | ⟨-, hsome⟩
        · exact .provider (hgiven ▸ hevent) ⟨start, x, during, rfl, halone, hgoes⟩
        · rw [hother] at hsome
          cases hsome
      · refine .fallback answer hevent ⟨start, x, during, rfl, hanew, hgoes⟩ ?_
        refine (of_choose hchoice).imp_right fun ⟨hrefused, hsome⟩ => ⟨hrefused, ?_⟩
        exact hinformed.last credential (hother.symm.trans hsome)

/-- An attempt that has begun on its own calls nobody if the provider has no credential, and counts
as one failure.

**Proof sketch.** The attempt has asked since it began, and nobody was called meanwhile: this is
what the session knows of its past. As it has begun on its own it has no other credential, and so it
fails (`of_refusal`); a user who is not logged out has the next attempt scheduled. -/
lemma fails_of_refused {before during after : List (Record σ)} {x r : Record σ}
    (htrace : trace events s store = before ++ x :: (during ++ r :: after))
    (halone : x.StartsAlone) (hduring : ∀ y ∈ during, y.GoesOn) {answer : Credential.Answer}
    (hevent : r.event = .acquired answer) {other : Option String}
    (hasking : r.session.attempt = some (.asking other))
    (hrefused : ∀ credential, answer ≠ .ok (some credential)) :
    (∀ y ∈ x :: (during ++ [r]), y.dialed = []) ∧ r.turn.session.attempt = none ∧
      r.turn.session.link = none ∧ r.turn.session.backoff = x.session.backoff.next.2 ∧
      r.turn.session.retryAt = some (r.moment.clock + x.session.backoff.next.1.millis) := by
  have htrace' : trace events s store = (before ++ x :: during) ++ r :: after := by
    rw [htrace, List.append_assoc, List.cons_append]
  have hinformed := informed_trace hstart htrace'
  obtain ⟨⟨hdialed, hbegins⟩, hquiet⟩ := (hinformed.asking other hasking).of_split
    (by
      rintro ⟨⟨hsome, -⟩, -⟩
      simp [halone.2.1] at hsome)
    (by
      rintro y hy - ⟨-, ⟨⟨-, hnone, -⟩, -⟩ | ⟨⟨-, hnone, -⟩, -⟩⟩
      · simpa [hnone] using (hduring y hy).1
      · simpa [hnone] using (hduring y hy).1)
  -- The attempt has begun on its own, so there is no credential to fall back on.
  have hother : other = none ∧ x.session.backoff = r.session.backoff := by
    rcases hbegins with ⟨-, hother, hbackoff⟩ | ⟨⟨⟨caller, hcaller⟩, -⟩, -⟩
    · exact ⟨hother, hbackoff⟩
    · have hresumes := halone.1
      rw [hcaller] at hresumes
      exact hresumes.elim
  obtain ⟨rfl, hbackoff⟩ := hother
  have hmove : Move r.moment r.session (.acquired answer) r.turn.report :=
    hevent ▸ r.move hinformed.coherent
  obtain ⟨e, hfail⟩ := hmove.of_refusal hasking hrefused
  have hsome : r.session.attempt.isSome := by rw [hasking]; rfl
  have hlink : r.session.link = none := (hinformed.coherent.of_attempt hsome).2.1
  obtain ⟨hcounted, hdue⟩ := Report.fail_of_loggedIn r.moment e
    (r := r.session.report .nothing) (loggedOut_of_attempt hinformed.coherent hsome)
  rw [← hfail] at hcounted hdue
  rw [hbackoff]
  refine ⟨?_, ?_, ?_, hcounted, hdue⟩
  · refine List.forall_mem_cons.2 ⟨hdialed, List.forall_mem_append.2
      ⟨fun y hy => (hquiet y hy).2, ?_⟩⟩
    intro y hy
    rw [List.mem_singleton.1 hy]
    exact congrArg (·.said.dialed) hfail
  · exact (congrArg (·.connection.attempt) hfail).trans (Report.attempt_fail _ _ _)
  · exact (congrArg (·.connection.link) hfail).trans ((Report.link_fail _ _ _).trans hlink)

/-- **An attempt goes on with the credential it is entitled to.** Whatever the provider answers, and
whatever happens in a run: every address that is to be connected to carries the credential that the
attempt is entitled to. An attempt that has begun on its own and to which the provider has nothing
to give calls nobody from its beginning on, is over, and counts as one failure. The credential of an
open link is the one that its address carried, which was called in the attempt that opened it.

**Proof sketch.** All three parts go back to events of the past, which the session knows after every
event (`informed_step`): the first is `entitled_of_dialed`, the second `fails_of_refused`, and the
third is what it knows of its link. -/
theorem credentials_run :
    (∀ before r after, trace events s store = before ++ r :: after → ∀ address ∈ r.dialed,
        ∃ credential, target.Carries address credential ∧ r.Entitled before credential) ∧
      (∀ before x during r after answer,
        trace events s store = before ++ x :: (during ++ r :: after) → x.StartsAlone →
        (∀ y ∈ during, y.GoesOn) → r.event = .acquired answer →
        (∃ other, r.session.attempt = some (.asking other)) →
        (∀ credential, answer ≠ .ok (some credential)) →
          (∀ y ∈ x :: (during ++ [r]), y.dialed = []) ∧ r.turn.session.attempt = none ∧
          r.turn.session.link = none ∧ r.turn.session.backoff = x.session.backoff.next.2 ∧
          r.turn.session.retryAt = some (r.moment.clock + x.session.backoff.next.1.millis)) ∧
      ∀ link, (run events s store).1.link = some link →
        ∃ credential, (run events s store).1.linkCredential = some credential ∧
          Since (fun before x => x.OpensWith credential ∧ x.session.opened = link ∧
            Since (fun _ y => y.Calls target credential) Record.GoesOn before)
            (Record.Holds link) (trace events s store) := by
  refine ⟨?_, ?_, ?_⟩
  · intro before r after htrace address hdialed
    exact entitled_of_dialed hstart htrace hdialed
  · rintro before x during r after answer htrace halone hduring hevent ⟨other, hasking⟩ hrefused
    exact fails_of_refused hstart htrace halone hduring hevent hasking hrefused
  · exact (history_run (P := fun past s _ => Informed target past s)
      (fun _ _ _ h => informed_step h) (informed_start hstart)).link

end Run

/-- A link is lost that was opened with the credential of a caller, and the provider gives another
one for the next attempt. -/
def Sample.renewal : List (Moment × Event) :=
  [(taking 0, .command (.connect "old" 0)), (taking 0, .opened), (taking 0, .ended),
    (taking 0, .retryDue), (taking 0, .acquired (.ok (some "new")))]

/-- The last attempt is entitled to the credential that its address carries.

**Proof sketch.** The last event of the run calls, so the first part of `credentials_run` applies to
it. -/
theorem credentials_renewed :
    ∃ s store before r,
      start Sample.epoch Sample.settings Sample.target (⟨[]⟩ : Store.Memory) = (s, store) ∧
        trace Sample.renewal s store = before ++ [r] ∧
        r.dialed = [Sample.target.addressFor "new"] ∧
        ∃ credential, Sample.target.Carries (Sample.target.addressFor "new") credential ∧
          r.Entitled before credential := by
  obtain ⟨⟨s, store⟩, hstart⟩ : ∃ first,
    start Sample.epoch Sample.settings Sample.target (⟨[]⟩ : Store.Memory) = first := ⟨_, rfl⟩
  obtain ⟨before, r, htrace⟩ : ∃ before r, trace Sample.renewal s store = before ++ [r] :=
    ⟨(trace Sample.renewal s store).take 4, _, rfl⟩
  have hdialed : r.dialed = [Sample.target.addressFor "new"] := by
    obtain ⟨rfl, rfl⟩ := Prod.ext_iff.1 hstart
    have hsplit : (trace Sample.renewal _ _).take 4 ++ [_] = before ++ [r] := htrace
    obtain ⟨-, hlast⟩ := List.append_inj' hsplit rfl
    obtain ⟨rfl, -⟩ := List.cons.inj hlast
    rfl
  exact ⟨s, store, before, r, hstart, htrace, hdialed,
    (credentials_run hstart).1 before r [] htrace _ (by simp [hdialed])⟩

end Session

end Messenger
