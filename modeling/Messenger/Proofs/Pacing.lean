import Mathlib.Data.List.Induction
import Mathlib.Tactic.Lemma
import Messenger.Proofs.Heartbeat

set_option relaxedAutoImplicit false
set_option autoImplicit false

/-!
# Pacing

A monitor may be used in any way: started and stopped, armed and disarmed, left alone for any time,
and asked for an event at any time. What it gives then can be told from what has been done with it.
An end of the watchdog goes back to an arming that still stands, a ping to the start of the period
in which the monitor is running, and two pings keep their distance no matter how late they are
collected.

## Main definitions

* `Messenger.Heartbeat.Use`: what is done with a monitor.
* `Messenger.Heartbeat.watch`: a monitor that is used, with notes of what was seen.
* `Messenger.Heartbeat.Running`, `Messenger.Heartbeat.Began`: the monitor is running, and since
  when.
* `Messenger.Heartbeat.Pinged`: the last ping of the period in which the monitor is running.
* `Messenger.Heartbeat.Standing`: the arming of the watchdog that still stands.

## Main results

* `Messenger.Heartbeat.Paced.after`: what the two timers have to do with the notes stays so whatever
  is done.
* `Messenger.Heartbeat.events_paced`: when events are given, and when none is.
-/

namespace Messenger.Heartbeat

/-! ### Waiting -/

/-- The end of the watchdog is given once. -/
lemma snd_poll_timeout {pingFirst : Bool} {now : Nat} {h : Heartbeat}
    (htimeout : (h.poll pingFirst now).1 = some .timeout) :
    (h.poll pingFirst now).2 = { h with watchdog := none } := by
  unfold poll at htimeout ⊢
  split at htimeout
  · cases htimeout
  · dsimp only at htimeout ⊢
    split at htimeout
    · cases htimeout
    · next hping =>
      rw [if_neg hping]
      split at htimeout
      · next hdog => rw [if_pos hdog]
      · cases htimeout

/-- Waiting ends with nothing, with a ping that is due, or with the end of the watchdog. -/
inductive Waited (now ms : Nat) (h : Heartbeat) : Option Event × Nat × Heartbeat → Prop
  | nothing (hdue : ∀ due, h.due? = some due → now + ms < due) : Waited now ms h (none, now + ms, h)
  | ping {moment tick : Nat} (hticker : h.ticker = some tick) (hdue : tick ≤ moment) :
    Waited now ms h
      (some .ping, moment, { h with ticker := some (nextTick h.interval moment tick) })
  | timeout {moment dog : Nat} (hticker : h.ticker.isSome) (hwatchdog : h.watchdog = some dog)
      (hdue : dog ≤ moment) :
    Waited now ms h (some .timeout, moment, { h with watchdog := none })

/-- How waiting ends.

**Proof sketch.** If no timer runs, or the next one is due only after the time of waiting, that ends
with nothing. If one is due within it, waiting goes on until then, and what is collected is the ping
(`poll_ping`) or the end of the watchdog (`poll_timeout`). -/
lemma waited_next (pingFirst : Bool) (now ms : Nat) (h : Heartbeat) :
    Waited now ms h (h.next pingFirst now ms) := by
  unfold next
  cases hdue : h.due? with
  | none => exact .nothing (by simp [hdue])
  | some due =>
    dsimp only
    by_cases hin : due ≤ now + ms
    · rw [if_pos hin]
      cases hevent : (h.poll pingFirst (max now due)).1 with
      | none =>
        have hlate := poll_eq_none_iff.1 hevent due hdue
        omega
      | some event =>
        cases event with
        | ping =>
          obtain ⟨tick, hticker, hle, hpoll⟩ := poll_ping hevent
          rw [hpoll]
          exact .ping hticker hle
        | timeout =>
          obtain ⟨hticker, dog, hwatchdog, hle⟩ := poll_timeout hevent
          rw [snd_poll_timeout hevent]
          exact .timeout hticker hwatchdog hle
    · rw [if_neg hin]
      refine .nothing fun due' hdue' => ?_
      obtain rfl : due = due' := Option.some.inj (hdue.symm.trans hdue')
      omega

/-! ### Uses -/

/-- What is done with a monitor. -/
inductive Use
  | start
  | stop
  | arm
  | pong
  /-- It is left alone for some milliseconds. -/
  | pass (ms : Nat)
  /-- An event is waited for, some milliseconds at most. -/
  | wait (pingFirst : Bool) (ms : Nat)
  deriving DecidableEq, Repr

/-- What was seen of a use. -/
inductive Sign
  | started
  | stopped
  | armed
  | answered
  | passed
  /-- The waiting came to an end, with an event or without. -/
  | given (event : Option Event)
  deriving DecidableEq, Repr

/-- What was seen of a use, and when it was over. -/
structure Note where
  moment : Nat
  sign : Sign
  deriving DecidableEq, Repr

/-- What a use does to a monitor at the moment `now`, with the moment at which it is over. -/
def Use.perform (now : Nat) (h : Heartbeat) : Use → Sign × Nat × Heartbeat
  | .start => (.started, now, h.start now)
  | .stop => (.stopped, now, h.stop)
  | .arm => (.armed, now, h.arm now)
  | .pong => (.answered, now, h.pong)
  | .pass ms => (.passed, now + ms, h)
  | .wait pingFirst ms =>
    let (event, moment, h) := h.next pingFirst now ms
    (.given event, moment, h)

/-- A monitor that has been used, with the notes that were taken. -/
structure Watch where
  notes : List Note
  now : Nat
  monitor : Heartbeat
  deriving DecidableEq, Repr

/-- One use more. -/
def Watch.after (w : Watch) (u : Use) : Watch :=
  let (sign, moment, monitor) := u.perform w.now w.monitor
  ⟨w.notes ++ [⟨moment, sign⟩], moment, monitor⟩

/-- The note of waiting tells how it came to an end. -/
lemma Watch.after_wait (w : Watch) (pingFirst : Bool) (ms : Nat) :
    w.after (.wait pingFirst ms) =
      ⟨w.notes ++ [⟨(w.monitor.next pingFirst w.now ms).2.1,
          .given (w.monitor.next pingFirst w.now ms).1⟩],
        (w.monitor.next pingFirst w.now ms).2.1, (w.monitor.next pingFirst w.now ms).2.2⟩ := rfl

/-- A monitor that is used from the moment `began` on. -/
def watch (interval timeout began : Nat) (uses : List Use) : Watch :=
  uses.foldl Watch.after ⟨[], began, idle interval timeout⟩

/-! ### What the notes tell -/

/-- The last note of one kind was taken at a moment, and none of another kind has been taken since
then. -/
def Latest (mark ends : Sign → Prop) (notes : List Note) (moment : Nat) : Prop :=
  ∃ before sign later, notes = before ++ ⟨moment, sign⟩ :: later ∧ mark sign ∧
    ∀ n ∈ later, ¬ mark n.sign ∧ ¬ ends n.sign

/-- The watchdog is disarmed: by an answer, by its own end, or because the monitor is stopped. -/
def Sign.Disarms (sign : Sign) : Prop :=
  sign = .stopped ∨ sign = .answered ∨ sign = .given (some .timeout)

/-- The watchdog was armed at a moment for the last time, and has not been disarmed since then. -/
def Standing (notes : List Note) (moment : Nat) : Prop :=
  Latest (· = .armed) Sign.Disarms notes moment

/-- A ping was given at a moment as the last one, and the monitor has not been stopped since. -/
def Pinged (notes : List Note) (moment : Nat) : Prop :=
  Latest (· = .given (some .ping)) (· = .stopped) notes moment

/-- The monitor has been started, and not been stopped since then. -/
def Running (notes : List Note) : Prop :=
  ∃ moment, Latest (· = .started) (· = .stopped) notes moment

/-- The monitor was not running and was started at a moment, and it has not been stopped since
then. -/
def Began (notes : List Note) (moment : Nat) : Prop :=
  ∃ before later, notes = before ++ ⟨moment, .started⟩ :: later ∧ ¬ Running before ∧
    ∀ n ∈ later, n.sign ≠ .stopped

/-- Where a note stands among notes to which one has been added.

**Proof sketch.** By whether the note that was added is the one that is asked for or stands behind
it. -/
lemma concat_eq_append_cons {before later notes : List Note} {n x : Note} :
    notes ++ [x] = before ++ n :: later ↔
      (before = notes ∧ n = x ∧ later = []) ∨
        ∃ later', later = later' ++ [x] ∧ notes = before ++ n :: later' := by
  cases later using List.reverseRecOn with
  | nil =>
    constructor
    · intro h
      obtain ⟨rfl, hx⟩ := List.append_inj' h rfl
      exact .inl ⟨rfl, (List.cons.inj hx).1.symm, rfl⟩
    · rintro (⟨rfl, rfl, -⟩ | ⟨later', h, -⟩)
      · rfl
      · simp at h
  | append_singleton later y =>
    rw [← List.cons_append, ← List.append_assoc]
    constructor
    · intro h
      obtain ⟨rfl, hx⟩ := List.append_inj' h rfl
      exact .inr ⟨later, by rw [(List.cons.inj hx).1], rfl⟩
    · rintro (⟨-, -, h⟩ | ⟨later', h, rfl⟩)
      · simp at h
      · obtain ⟨rfl, hy⟩ := List.append_inj' h rfl
        rw [(List.cons.inj hy).1]

/-- Nothing has been noted at first. -/
lemma not_latest_nil {mark ends : Sign → Prop} {moment : Nat} : ¬ Latest mark ends [] moment := by
  rintro ⟨before, sign, later, h, -⟩
  simp at h

/-- One note more is the last one of its kind, or leaves the last one as it is. -/
lemma latest_concat {mark ends : Sign → Prop} {notes : List Note} {x : Note} {moment : Nat} :
    Latest mark ends (notes ++ [x]) moment ↔
      (mark x.sign ∧ x.moment = moment) ∨
        (¬ mark x.sign ∧ ¬ ends x.sign ∧ Latest mark ends notes moment) := by
  constructor
  · rintro ⟨before, sign, later, h, hmark, hlater⟩
    rcases concat_eq_append_cons.1 h with ⟨-, rfl, -⟩ | ⟨later', rfl, hnotes⟩
    · exact .inl ⟨hmark, rfl⟩
    · obtain ⟨hx, hends⟩ := hlater x (by simp)
      exact .inr ⟨hx, hends, before, sign, later', hnotes, hmark,
        fun n hn => hlater n (by simp [hn])⟩
  · rintro (⟨hmark, rfl⟩ | ⟨hmark, hends, before, sign, later, rfl, hsign, hlater⟩)
    · exact ⟨notes, x.sign, [], rfl, hmark, by simp⟩
    · refine ⟨before, sign, later ++ [x], by simp, hsign, fun n hn => ?_⟩
      rcases List.mem_append.1 hn with hn | hn
      · exact hlater n hn
      · rw [List.mem_singleton.1 hn]
        exact ⟨hmark, hends⟩

/-- The monitor runs from a start on until it is stopped. -/
lemma running_concat {notes : List Note} {x : Note} :
    Running (notes ++ [x]) ↔ x.sign = .started ∨ (x.sign ≠ .stopped ∧ Running notes) := by
  constructor
  · rintro ⟨moment, h⟩
    rcases latest_concat.1 h with ⟨hx, -⟩ | ⟨-, hends, h⟩
    · exact .inl hx
    · exact .inr ⟨hends, moment, h⟩
  · intro h
    by_cases hx : x.sign = .started
    · exact ⟨x.moment, latest_concat.2 (.inl ⟨hx, rfl⟩)⟩
    · obtain ⟨hends, moment, hrunning⟩ := h.resolve_left hx
      exact ⟨moment, latest_concat.2 (.inr ⟨hx, hends, hrunning⟩)⟩

/-- A period begins with a start of a monitor that is not running, and goes on until it is
stopped. -/
lemma began_concat {notes : List Note} {x : Note} {moment : Nat} :
    Began (notes ++ [x]) moment ↔
      (x = ⟨moment, .started⟩ ∧ ¬ Running notes) ∨ (x.sign ≠ .stopped ∧ Began notes moment) := by
  constructor
  · rintro ⟨before, later, h, hbefore, hlater⟩
    rcases concat_eq_append_cons.1 h with ⟨rfl, rfl, -⟩ | ⟨later', rfl, hnotes⟩
    · exact .inl ⟨rfl, hbefore⟩
    · exact .inr ⟨hlater x (by simp), before, later', hnotes, hbefore,
        fun n hn => hlater n (by simp [hn])⟩
  · rintro (⟨rfl, hnotes⟩ | ⟨hx, before, later, rfl, hbefore, hlater⟩)
    · exact ⟨notes, [], rfl, hnotes, by simp⟩
    · refine ⟨before, later ++ [x], by simp, hbefore, fun n hn => ?_⟩
      rcases List.mem_append.1 hn with hn | hn
      · exact hlater n hn
      · rwa [List.mem_singleton.1 hn]

/-- A monitor that is running has begun to. -/
lemma running_iff_began {notes : List Note} : Running notes ↔ ∃ moment, Began notes moment := by
  induction notes using List.reverseRecOn with
  | nil => simp [Running, not_latest_nil, Began]
  | append_singleton notes x ih =>
    simp only [running_concat, began_concat, exists_or, exists_and_left, ← ih]
    constructor
    · rintro (hx | hx)
      · by_cases hrunning : Running notes
        · exact .inr ⟨by simp [hx], hrunning⟩
        · exact .inl ⟨x.moment, by rw [← hx], hrunning⟩
      · exact .inr hx
    · rintro (⟨moment, rfl, -⟩ | hx)
      · exact .inl rfl
      · exact .inr hx

/-! ### What the timers have to do with the notes -/

/-- The timers of a monitor as the notes tell them. The next ping is due one interval after the
beginning of the period, or one interval after the last ping, but for the tolerance. The watchdog
runs out one timeout after the arming that still stands. -/
structure Paced (interval timeout : Nat) (w : Watch) : Prop where
  interval_eq : w.monitor.interval = interval
  timeout_eq : w.monitor.timeout = timeout
  running : w.monitor.ticker.isSome ↔ Running w.notes
  pinged : ∀ u, Pinged w.notes u → Running w.notes
  began : ∀ tick since, w.monitor.ticker = some tick → Began w.notes since →
    since + interval ≤ tick ∧ ((∀ u, ¬ Pinged w.notes u) → tick = since + interval)
  spaced : ∀ tick u, w.monitor.ticker = some tick → Pinged w.notes u →
    u + interval ≤ tick + tolerance ∧ tick ≤ u + interval
  standing : ∀ dog, w.monitor.watchdog = some dog ↔
    ∃ armed, Standing w.notes armed ∧ dog = armed + timeout

/-- At first the monitor is idle and nothing has been noted. -/
lemma paced_idle (interval timeout began : Nat) :
    Paced interval timeout ⟨[], began, idle interval timeout⟩ := by
  refine ⟨rfl, rfl, ?_, ?_, ?_, ?_, ?_⟩ <;>
    simp [idle, Running, Pinged, Standing, not_latest_nil]

namespace Paced

variable {interval timeout : Nat} {w : Watch}

/-- A note that tells of neither timer, taken at any moment. -/
lemma note (h : Paced interval timeout w) {sign : Sign}
    (hsign : sign = .passed ∨ sign = .given none) (moment : Nat) :
    Paced interval timeout ⟨w.notes ++ [⟨moment, sign⟩], moment, w.monitor⟩ := by
  have hrunning : Running (w.notes ++ [⟨moment, sign⟩]) ↔ Running w.notes := by
    rcases hsign with rfl | rfl <;> simp [running_concat]
  have hbegan : ∀ since, Began (w.notes ++ [⟨moment, sign⟩]) since ↔ Began w.notes since := by
    rcases hsign with rfl | rfl <;> simp [began_concat]
  have hpinged : ∀ u, Pinged (w.notes ++ [⟨moment, sign⟩]) u ↔ Pinged w.notes u := by
    rcases hsign with rfl | rfl <;> simp [Pinged, latest_concat]
  have hstanding : ∀ u, Standing (w.notes ++ [⟨moment, sign⟩]) u ↔ Standing w.notes u := by
    rcases hsign with rfl | rfl <;> simp [Standing, latest_concat, Sign.Disarms]
  refine ⟨h.interval_eq, h.timeout_eq, h.running.trans hrunning.symm, ?_, ?_, ?_, ?_⟩ <;>
    simp only [hrunning, hbegan, hpinged, hstanding]
  exacts [h.pinged, h.began, h.spaced, h.standing]

/-- A start begins a period, unless the monitor is running.

**Proof sketch.** A start of a monitor that is running changes nothing but the notes. Otherwise a
period begins at this moment, its first ping is due one interval later, and no ping of it has been
given yet. -/
lemma start (h : Paced interval timeout w) : Paced interval timeout (w.after .start) := by
  have hpinged : ∀ u, Pinged (w.after .start).notes u ↔ Pinged w.notes u := by
    simp [Watch.after, Use.perform, Pinged, latest_concat]
  have hstanding : ∀ u, Standing (w.after .start).notes u ↔ Standing w.notes u := by
    simp [Watch.after, Use.perform, Standing, latest_concat, Sign.Disarms]
  have hrunning : Running (w.after .start).notes := running_concat.2 (.inl rfl)
  cases hticker : w.monitor.ticker with
  | some tick =>
    -- A monitor that is running goes on as it was.
    have hsame : (w.after .start).monitor = w.monitor := by
      simp [Watch.after, Use.perform, Heartbeat.start, hticker]
    have hbegan : ∀ since, Began (w.after .start).notes since ↔ Began w.notes since := by
      intro since
      have hbefore : Running w.notes := h.running.1 (by simp [hticker])
      simp [Watch.after, Use.perform, began_concat, hbefore]
    refine ⟨?_, ?_, ?_, fun _ _ => hrunning, ?_, ?_, ?_⟩ <;>
      simp only [hsame, hbegan, hpinged, hstanding]
    exacts [h.interval_eq, h.timeout_eq, by simp [hticker, hrunning], h.began, h.spaced, h.standing]
  | none =>
    have hstopped : ¬ Running w.notes := by
      rw [← h.running, hticker]
      exact Bool.false_ne_true
    have hfresh : ∀ u, ¬ Pinged w.notes u := fun u hu => hstopped (h.pinged u hu)
    have hnew : (w.after .start).monitor =
        { w.monitor with ticker := some (w.now + interval) } := by
      simp [Watch.after, Use.perform, start_of_none hticker, h.interval_eq]
    have hbegan : ∀ since, Began (w.after .start).notes since ↔ w.now = since := by
      intro since
      have hnone : ¬ Began w.notes since := fun hs => hstopped (running_iff_began.2 ⟨since, hs⟩)
      simp [Watch.after, Use.perform, began_concat, hnone, hstopped]
    refine ⟨?_, ?_, ?_, fun _ _ => hrunning, ?_, ?_, ?_⟩ <;>
      simp only [hnew, hbegan, hpinged, hstanding]
    · exact h.interval_eq
    · exact h.timeout_eq
    · simp [hrunning]
    · rintro tick since ⟨rfl⟩ rfl
      exact ⟨Nat.le_refl _, fun _ => rfl⟩
    · exact fun tick u _ hu => absurd hu (hfresh u)
    · exact h.standing

/-- A stop ends the period. -/
lemma stop (h : Paced interval timeout w) : Paced interval timeout (w.after .stop) := by
  refine ⟨h.interval_eq, h.timeout_eq, ?_, ?_, ?_, ?_, ?_⟩ <;>
    simp [Watch.after, Use.perform, Heartbeat.stop, running_concat, Pinged, Standing, latest_concat,
      Sign.Disarms]

/-- The watchdog is armed anew. -/
lemma arm (h : Paced interval timeout w) : Paced interval timeout (w.after .arm) := by
  have hbegan : ∀ since, Began (w.after .arm).notes since ↔ Began w.notes since := by
    simp [Watch.after, Use.perform, began_concat]
  have hpinged : ∀ u, Pinged (w.after .arm).notes u ↔ Pinged w.notes u := by
    simp [Watch.after, Use.perform, Pinged, latest_concat]
  have hrunning : Running (w.after .arm).notes ↔ Running w.notes := by
    simp [Watch.after, Use.perform, running_concat]
  refine ⟨h.interval_eq, h.timeout_eq, h.running.trans hrunning.symm, ?_, ?_, ?_, fun dog => ?_⟩
  · simpa only [hrunning, hpinged] using h.pinged
  · simp only [hbegan, hpinged]
    exact h.began
  · simp only [hpinged]
    exact h.spaced
  · simp [Watch.after, Use.perform, Heartbeat.arm, Standing, latest_concat, h.timeout_eq, eq_comm]

/-- What disarms the watchdog and leaves the period as it is. -/
lemma disarm (h : Paced interval timeout w) {sign : Sign}
    (hsign : sign = .answered ∨ sign = .given (some .timeout)) (moment : Nat) :
    Paced interval timeout
      ⟨w.notes ++ [⟨moment, sign⟩], moment, { w.monitor with watchdog := none }⟩ := by
  have hrunning : Running (w.notes ++ [⟨moment, sign⟩]) ↔ Running w.notes := by
    rcases hsign with rfl | rfl <;> simp [running_concat]
  have hbegan : ∀ since, Began (w.notes ++ [⟨moment, sign⟩]) since ↔ Began w.notes since := by
    rcases hsign with rfl | rfl <;> simp [began_concat]
  have hpinged : ∀ u, Pinged (w.notes ++ [⟨moment, sign⟩]) u ↔ Pinged w.notes u := by
    rcases hsign with rfl | rfl <;> simp [Pinged, latest_concat]
  have hstanding : ∀ u, ¬ Standing (w.notes ++ [⟨moment, sign⟩]) u := by
    rcases hsign with rfl | rfl <;> simp [Standing, latest_concat, Sign.Disarms]
  refine ⟨h.interval_eq, h.timeout_eq, h.running.trans hrunning.symm, ?_, ?_, ?_, ?_⟩
  · simpa only [hrunning, hpinged] using h.pinged
  · simpa only [hbegan, hpinged] using h.began
  · simpa only [hpinged] using h.spaced
  · simp [hstanding]

/-- A ping moves the next one on: by one interval from the moment at which it was due, or from the
moment at which it is given if that is later by more than the tolerance.

**Proof sketch.** The period and the armings are as before. The next ping keeps its distance from
this moment, but for the tolerance, and is not due before the period is one interval old, since this
one was not. -/
lemma ping (h : Paced interval timeout w) {tick moment : Nat}
    (hticker : w.monitor.ticker = some tick) (hdue : tick ≤ moment) :
    Paced interval timeout
      ⟨w.notes ++ [⟨moment, .given (some .ping)⟩], moment,
        { w.monitor with ticker := some (nextTick w.monitor.interval moment tick) }⟩ := by
  have hrunning : Running (w.notes ++ [⟨moment, .given (some .ping)⟩]) := by
    refine running_concat.2 (.inr ⟨by simp, h.running.1 ?_⟩)
    rw [hticker]
    rfl
  have hbegan : ∀ since,
      Began (w.notes ++ [⟨moment, .given (some .ping)⟩]) since ↔ Began w.notes since := by
    simp [began_concat]
  have hpinged : ∀ u, Pinged (w.notes ++ [⟨moment, .given (some .ping)⟩]) u ↔ moment = u := by
    simp [Pinged, latest_concat]
  have hstanding : ∀ u,
      Standing (w.notes ++ [⟨moment, .given (some .ping)⟩]) u ↔ Standing w.notes u := by
    simp [Standing, latest_concat, Sign.Disarms]
  have hnext : moment + interval ≤ nextTick interval moment tick + tolerance ∧
      tick + interval ≤ nextTick interval moment tick ∧
      nextTick interval moment tick ≤ moment + interval := by
    unfold nextTick
    split <;> omega
  obtain ⟨hlow, hlate, hhigh⟩ := hnext
  refine ⟨h.interval_eq, h.timeout_eq, by simp [hrunning], fun _ _ => hrunning, ?_, ?_, ?_⟩
  · rintro next since ⟨rfl⟩ hsince
    obtain ⟨hle, -⟩ := h.began tick since hticker ((hbegan since).1 hsince)
    rw [h.interval_eq]
    exact ⟨by omega, fun hnone => absurd ((hpinged moment).2 rfl) (hnone moment)⟩
  · rintro next u ⟨rfl⟩ hu
    obtain rfl := (hpinged u).1 hu
    rw [h.interval_eq]
    exact ⟨hlow, hhigh⟩
  · simpa only [hstanding] using h.standing

/-- **The timers and the notes agree.** Whatever is done with a monitor, its timers stay as the
notes tell them.

**Proof sketch.** One lemma for each use: starting, stopping, arming and disarming, and for waiting
one for each way in which it ends (`waited_next`). -/
lemma after (h : Paced interval timeout w) (u : Use) : Paced interval timeout (w.after u) := by
  cases u with
  | start => exact h.start
  | stop => exact h.stop
  | arm => exact h.arm
  | pong => exact h.disarm (.inl rfl) w.now
  | pass ms => exact h.note (.inl rfl) (w.now + ms)
  | wait pingFirst ms =>
    have hwaited := waited_next pingFirst w.now ms w.monitor
    rw [w.after_wait]
    generalize w.monitor.next pingFirst w.now ms = outcome at hwaited ⊢
    cases hwaited with
    | nothing hdue => exact h.note (.inr rfl) _
    | ping hticker hdue => exact h.ping hticker hdue
    | timeout hticker hwatchdog hdue => exact h.disarm (.inr rfl) _

end Paced

/-- After any use the timers are as the notes tell them. -/
lemma paced_watch (interval timeout began : Nat) (uses : List Use) :
    Paced interval timeout (watch interval timeout began uses) := by
  suffices hall : ∀ w, Paced interval timeout w →
      Paced interval timeout (uses.foldl Watch.after w) from
    hall _ (paced_idle interval timeout began)
  induction uses with
  | nil => exact fun _ h => h
  | cons u uses ih => exact fun w h => ih _ (h.after u)

/-- A note was taken of a use, and those before it of the uses before.

**Proof sketch.** Induction from the last use backwards. The note was taken of the last one, or it
is among the notes of those before. -/
lemma exists_of_notes {interval timeout began : Nat} {uses : List Use} {before after : List Note}
    {n : Note} (h : (watch interval timeout began uses).notes = before ++ n :: after) :
    ∃ (w : Watch) (u : Use), Paced interval timeout w ∧ w.notes = before ∧
      n = ⟨(u.perform w.now w.monitor).2.1, (u.perform w.now w.monitor).1⟩ := by
  induction uses using List.reverseRecOn generalizing after with
  | nil => simp [watch] at h
  | append_singleton uses u ih =>
    have hlast : (watch interval timeout began (uses ++ [u])).notes =
        (watch interval timeout began uses).notes ++
          [⟨(u.perform (watch interval timeout began uses).now
              (watch interval timeout began uses).monitor).2.1,
            (u.perform (watch interval timeout began uses).now
              (watch interval timeout began uses).monitor).1⟩] := by
      rw [watch, List.foldl_append]
      rfl
    rw [hlast] at h
    rcases concat_eq_append_cons.1 h with ⟨hbefore, hn, -⟩ | ⟨after', -, hnotes⟩
    · exact ⟨_, u, paced_watch interval timeout began uses, hbefore.symm, hn⟩
    · exact ih hnotes

/-- The armings that an end of the watchdog goes back to come after the end before. -/
lemma Standing.mem_of_disarmed {before mid : List Note} {n : Note} {moment : Nat}
    (h : Standing (before ++ n :: mid) moment) (hn : n.sign.Disarms) : ⟨moment, .armed⟩ ∈ mid := by
  induction mid using List.reverseRecOn with
  | nil =>
    rcases latest_concat.1 h with ⟨hmark, -⟩ | ⟨-, hends, -⟩
    · rw [Sign.Disarms, hmark] at hn
      simp at hn
    · exact absurd hn hends
  | append_singleton mid x ih =>
    rw [← List.cons_append, ← List.append_assoc] at h
    rcases latest_concat.1 h with ⟨hmark, rfl⟩ | ⟨-, -, h⟩
    · simp [← hmark]
    · exact List.mem_append_left _ (ih h)

/-! ### When events are given -/

/-- Waiting came to an end at timers that were as the notes before tell them. -/
lemma exists_of_given {interval timeout began : Nat} {uses : List Use} {before after : List Note}
    {t : Nat} {event : Option Event}
    (h : (watch interval timeout began uses).notes = before ++ ⟨t, .given event⟩ :: after) :
    ∃ w : Watch, Paced interval timeout w ∧ w.notes = before ∧
      ∃ ms monitor, Waited w.now ms w.monitor (event, t, monitor) := by
  obtain ⟨w, u, hw, hbefore, hn⟩ := exists_of_notes h
  obtain ⟨ht, hsign⟩ := Note.mk.inj hn
  cases u with
  | wait pingFirst ms =>
    have hwaited := waited_next pingFirst w.now ms w.monitor
    cases hsign
    cases ht
    exact ⟨w, hw, hbefore, ms, _, hwaited⟩
  | _ => cases hsign

namespace Paced

variable {interval timeout ms t : Nat} {w : Watch} {monitor : Heartbeat}

/-- A monitor that is running has a time for the next ping. -/
lemma exists_tick (h : Paced interval timeout w) (hrunning : Running w.notes) :
    ∃ tick, w.monitor.ticker = some tick :=
  Option.isSome_iff_exists.1 (h.running.2 hrunning)

/-- The watchdog runs out one timeout after an arming that still stands. -/
lemma of_timeout (h : Paced interval timeout w)
    (hwaited : Waited w.now ms w.monitor (some .timeout, t, monitor)) :
    Running w.notes ∧ ∃ armed, Standing w.notes armed ∧ armed + timeout ≤ t := by
  cases hwaited with
  | timeout hticker hwatchdog hdue =>
    obtain ⟨armed, hstanding, rfl⟩ := (h.standing _).1 hwatchdog
    exact ⟨h.running.1 hticker, armed, hstanding, hdue⟩

/-- A ping is given one interval after the beginning of the period, and one interval after the ping
before, but for the tolerance. -/
lemma of_ping (h : Paced interval timeout w)
    (hwaited : Waited w.now ms w.monitor (some .ping, t, monitor)) :
    ∃ since, Began w.notes since ∧ since + interval ≤ t ∧
      ∀ u, Pinged w.notes u → u + interval ≤ t + tolerance := by
  cases hwaited with
  | ping hticker hdue =>
    obtain ⟨since, hsince⟩ := running_iff_began.1 (h.running.1 (by rw [hticker]; rfl))
    have hle := (h.began _ since hticker hsince).1
    refine ⟨since, hsince, by omega, fun u hu => ?_⟩
    have hspaced := (h.spaced _ u hticker hu).1
    omega

/-- If waiting in a period ends with nothing, neither timer has run out.

**Proof sketch.** A timer that runs is due only after the end of waiting. If the watchdog has been
armed it runs, and the ticker runs in the whole of a period; when they are due the notes tell. -/
lemma of_nothing (h : Paced interval timeout w)
    (hwaited : Waited w.now ms w.monitor (none, t, monitor)) {since : Nat}
    (hsince : Began w.notes since) :
    (∀ armed, Standing w.notes armed → t < armed + timeout) ∧
      (∀ u, Pinged w.notes u → t < u + interval) ∧
      ((∀ u, ¬ Pinged w.notes u) → t < since + interval) := by
  obtain ⟨tick, hticker⟩ := h.exists_tick (running_iff_began.2 ⟨since, hsince⟩)
  cases hwaited with
  | nothing hdue =>
    have htick : w.now + ms < tick := by
      cases hwatchdog : w.monitor.watchdog with
      | none => exact hdue tick (by simp [due?, hticker, hwatchdog])
      | some dog =>
        have hmin := hdue (min tick dog) (by simp [due?, hticker, hwatchdog])
        omega
    refine ⟨fun armed harmed => ?_, fun u hu => ?_, fun hnone => ?_⟩
    · have hwatchdog := (h.standing _).2 ⟨armed, harmed, rfl⟩
      have hmin := hdue (min tick (armed + timeout)) (by simp [due?, hticker, hwatchdog])
      omega
    · exact Nat.lt_of_lt_of_le htick (h.spaced tick u hticker hu).2
    · rwa [← (h.began tick since hticker hsince).2 hnone]

/-- To start a monitor that is running does nothing to it. -/
lemma start_of_running (h : Paced interval timeout w) (hrunning : Running w.notes) :
    (w.after .start).monitor = w.monitor := by
  obtain ⟨tick, hticker⟩ := h.exists_tick hrunning
  show w.monitor.start w.now = w.monitor
  rw [Heartbeat.start, hticker]

end Paced

/-- **Events keep their times.** However a monitor is used, an end of the watchdog is given only
while the monitor is running, and one timeout at least after an arming that still stands; so there
is an arming between any two of them. A ping is given only while the monitor is running, one
interval at least after the beginning of the period, which a start of a running monitor does not
move, and one interval after the ping before, but for the tolerance. Waiting ends with nothing in a
period only if neither has become due: the watchdog one timeout after it was armed, and the next
ping one interval after the one before or after the beginning.

**Proof sketch.** Every note was taken of a monitor whose timers are as the notes before it tell
them (`exists_of_given`). So what is given when a timer has run out can be told from the notes, one
case for each way in which waiting ends. Two ends of the watchdog have an arming between them,
because the first of them left none standing. -/
theorem events_paced (interval timeout began : Nat) (uses : List Use) :
    let w := watch interval timeout began uses
    (∀ before t after, w.notes = before ++ ⟨t, .given (some .timeout)⟩ :: after →
      Running before ∧ ∃ armed, Standing before armed ∧ armed + timeout ≤ t) ∧
    (∀ before u mid t after,
      w.notes = before ++ ⟨u, .given (some .timeout)⟩ ::
        (mid ++ ⟨t, .given (some .timeout)⟩ :: after) →
      ∃ armed, ⟨armed, .armed⟩ ∈ mid ∧ armed + timeout ≤ t) ∧
    (∀ before t after, w.notes = before ++ ⟨t, .given (some .ping)⟩ :: after →
      ∃ since, Began before since ∧ since + interval ≤ t ∧
        ∀ u, Pinged before u → u + interval ≤ t + tolerance) ∧
    (Running w.notes → (w.after .start).monitor = w.monitor) ∧
    (∀ before t after since, w.notes = before ++ ⟨t, .given none⟩ :: after → Began before since →
      (∀ armed, Standing before armed → t < armed + timeout) ∧
      (∀ u, Pinged before u → t < u + interval) ∧
      ((∀ u, ¬ Pinged before u) → t < since + interval)) := by
  intro w
  have htimeout : ∀ before t after, w.notes = before ++ ⟨t, .given (some .timeout)⟩ :: after →
      Running before ∧ ∃ armed, Standing before armed ∧ armed + timeout ≤ t := by
    intro before t after h
    obtain ⟨v, hv, rfl, ms, monitor, hwaited⟩ := exists_of_given h
    exact hv.of_timeout hwaited
  refine ⟨htimeout, ?_, ?_, (paced_watch interval timeout began uses).start_of_running, ?_⟩
  · intro before u mid t after h
    rw [← List.cons_append, ← List.append_assoc] at h
    obtain ⟨-, armed, hstanding, hle⟩ := htimeout _ t after h
    exact ⟨armed, hstanding.mem_of_disarmed (.inr (.inr rfl)), hle⟩
  · intro before t after h
    obtain ⟨v, hv, rfl, ms, monitor, hwaited⟩ := exists_of_given h
    exact hv.of_ping hwaited
  · intro before t after since h hsince
    obtain ⟨v, hv, rfl, ms, monitor, hwaited⟩ := exists_of_given h
    exact hv.of_nothing hwaited hsince

/-- A monitor that is started twice, gives a ping, runs out, is left alone for long, gives the next
ping late, and is waited for in vain. -/
def Sample.late : List Use :=
  [.start, .pass 20, .start, .wait true 100, .arm, .wait true 100, .pass 500, .wait false 0, .arm,
    .wait true 5, .pong, .stop, .wait true 1000]

/-- The watchdog runs out ten milliseconds after it was armed, the late ping keeps its distance, and
the waiting in vain ends before anything is due. -/
theorem events_paced_late :
    let notes := (watch 30 10 0 Sample.late).notes
    notes = notes.take 5 ++ ⟨40, .given (some .timeout)⟩ :: notes.drop 6 ∧
      (∃ armed, Standing (notes.take 5) armed ∧ armed + 10 ≤ 40) ∧
      notes = notes.take 7 ++ ⟨540, .given (some .ping)⟩ :: notes.drop 8 ∧
      (∃ since, Began (notes.take 7) since ∧ since + 30 ≤ 540 ∧
        ∀ u, Pinged (notes.take 7) u → u + 30 ≤ 540 + tolerance) ∧
      notes = notes.take 9 ++ ⟨545, .given none⟩ :: notes.drop 10 ∧ Began (notes.take 9) 0 ∧
      ∀ armed, Standing (notes.take 9) armed → 545 < armed + 10 := by
  intro notes
  obtain ⟨htimeout, -, hping, -, hnone⟩ := events_paced 30 10 0 Sample.late
  have hout : notes = notes.take 5 ++ ⟨40, .given (some .timeout)⟩ :: notes.drop 6 := by decide
  have hpinged : notes = notes.take 7 ++ ⟨540, .given (some .ping)⟩ :: notes.drop 8 := by decide
  have hvain : notes = notes.take 9 ++ ⟨545, .given none⟩ :: notes.drop 10 := by decide
  have hbegan : Began (notes.take 9) 0 := by
    refine ⟨[], (notes.take 9).drop 1, by decide, ?_, by decide⟩
    rintro ⟨moment, h⟩
    exact not_latest_nil h
  exact ⟨hout, (htimeout _ _ _ hout).2, hpinged, hping _ _ _ hpinged, hvain, hbegan,
    (hnone _ _ _ 0 hvain hbegan).1⟩

end Messenger.Heartbeat
