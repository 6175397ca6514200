set_option relaxedAutoImplicit false
set_option autoImplicit false

/-!
# Heartbeat

While a connection is open, a ping is due at the end of every interval. After each ping a watchdog
is armed, and an answer disarms it; if it runs out first, the connection counts as dead. Moments
are milliseconds of a clock that only goes forward.

## Main definitions

* `Messenger.Heartbeat`: interval, timeout and the two timers.
* `Messenger.Heartbeat.poll`: the event that is due at a moment, if there is one.
* `Messenger.Heartbeat.due?`: when the next event is due.
* `Messenger.Heartbeat.next`: the first event within a time of waiting.

## Main results

* `Messenger.Heartbeat.poll_eq_none_iff`: no event is due exactly before the moment `due?`.
-/

namespace Messenger

/-- The timers of a connection. -/
structure Heartbeat where
  interval : Nat
  timeout : Nat
  /-- When the next ping is due, while the monitor is running. -/
  ticker : Option Nat
  /-- When the watchdog runs out, while it is armed. -/
  watchdog : Option Nat
  deriving DecidableEq, Repr, Inhabited

namespace Heartbeat

/-- What the monitor asks for. -/
inductive Event
  /-- A ping is to be sent. -/
  | ping
  /-- No answer came in time. -/
  | timeout
  deriving DecidableEq, Repr, Inhabited

/-- A monitor that is not running. -/
def idle (interval timeout : Nat) : Heartbeat :=
  ⟨interval, timeout, none, none⟩

/-- Starts the monitor; the first ping is due after one interval. If it is running already,
nothing changes. -/
def start (now : Nat) (h : Heartbeat) : Heartbeat :=
  match h.ticker with
  | some _ => h
  | none => { h with ticker := some (now + h.interval) }

/-- Stops both timers. -/
def stop (h : Heartbeat) : Heartbeat :=
  { h with ticker := none, watchdog := none }

/-- Arms the watchdog, anew if it is armed. -/
def arm (now : Nat) (h : Heartbeat) : Heartbeat :=
  { h with watchdog := some (now + h.timeout) }

/-- An answer came: disarms the watchdog. -/
def pong (h : Heartbeat) : Heartbeat :=
  { h with watchdog := none }

/-- By how many milliseconds a ping may be late and still leave the pings after it where they
are. -/
def tolerance : Nat := 5

/-- When the next ping is due, after a ping that was due at `due` has been collected at `now`. A
ping that is collected late moves those after it, so that no two follow each other too soon. -/
def nextTick (interval now due : Nat) : Nat :=
  if due + tolerance < now then now + interval else due + interval

/-- A moment has come. -/
def isDue (now : Nat) : Option Nat → Bool
  | some t => t ≤ now
  | none => false

/-- The event that is due at the moment `now`, and the monitor after it has been collected. If
both timers have run out, `pingFirst` says which of them comes first. Nothing is due while the
monitor is not running. -/
def poll (pingFirst : Bool) (now : Nat) (h : Heartbeat) : Option Event × Heartbeat :=
  match h.ticker with
  | none => (none, h)
  | some tick =>
    let pinged := { h with ticker := some (nextTick h.interval now tick) }
    if tick ≤ now ∧ (pingFirst ∨ isDue now h.watchdog = false) then (some .ping, pinged)
    else if isDue now h.watchdog then (some .timeout, { h with watchdog := none })
    else (none, h)

/-- When the next event is due, if the monitor is running. -/
def due? (h : Heartbeat) : Option Nat :=
  match h.ticker, h.watchdog with
  | none, _ => none
  | some tick, none => some tick
  | some tick, some dog => some (min tick dog)

/-- Waits for an event from the moment `now` for `wait` milliseconds at most, and gives it with
the moment at which the waiting ended. An event that is due at the very end counts. -/
def next (pingFirst : Bool) (now wait : Nat) (h : Heartbeat) : Option Event × Nat × Heartbeat :=
  match h.due? with
  | none => (none, now + wait, h)
  | some due =>
    if due ≤ now + wait then
      let moment := max now due
      let (event, h) := h.poll pingFirst moment
      (event, moment, h)
    else (none, now + wait, h)

/-- **When nothing is due.** No event is due exactly if the monitor is not running or its next event
is still to come.

**Proof sketch.** By cases on the two timers. Where both run, `due?` is the earlier of them, and
`poll` asks for each of them on its own, so every order of the two moments is looked at. -/
theorem poll_eq_none_iff {pingFirst : Bool} {now : Nat} {h : Heartbeat} :
    (h.poll pingFirst now).1 = none ↔ ∀ t, h.due? = some t → now < t := by
  obtain ⟨interval, timeout, ticker, watchdog⟩ := h
  cases ticker with
  | none => simp [poll, due?]
  | some tick =>
    cases watchdog with
    | none =>
      by_cases ht : tick ≤ now
      · simp [poll, due?, isDue, ht]
      · simp [poll, due?, isDue, ht]
        omega
    | some dog =>
      by_cases ht : tick ≤ now <;> by_cases hd : dog ≤ now <;> cases pingFirst <;>
        simp [poll, due?, isDue, ht, hd] <;> omega

end Heartbeat

end Messenger
