import Mathlib.Tactic.Lemma
import Messenger.Heartbeat

set_option relaxedAutoImplicit false
set_option autoImplicit false

/-!
# What is due on time

A heartbeat that is looked after no later than something is due gives it at that very moment. Then
pings follow each other by one interval exactly, and the watchdog runs out one timeout after it has
been armed.

## Main definitions

* `Messenger.Heartbeat.OnTime`: nothing has been due before.

## Main results

* `Messenger.Heartbeat.OnTime.ping`: a ping on time.
* `Messenger.Heartbeat.OnTime.timeout`: the end of the watchdog on time.
-/

namespace Messenger.Heartbeat

/-! ### Collecting what is due -/

/-- The heartbeat that is stopped after something due has been collected is the one that is stopped
before. -/
lemma stop_poll (pingFirst : Bool) (now : Nat) (h : Heartbeat) :
    (h.poll pingFirst now).2.stop = h.stop := by
  unfold Heartbeat.poll
  split
  · rfl
  · dsimp only
    split
    · rfl
    · split <;> rfl

/-- To stop a heartbeat that is not running changes nothing. -/
lemma stop_of_none {h : Heartbeat} (hticker : h.ticker = none)
    (hwatchdog : h.watchdog = none) : h.stop = h := by
  rw [Heartbeat.stop, Heartbeat.mk.injEq]
  exact ⟨rfl, rfl, hticker.symm, hwatchdog.symm⟩

/-- If nothing is due, collecting it changes nothing. -/
lemma snd_poll_of_none {pingFirst : Bool} {now : Nat} {h : Heartbeat}
    (hnone : (h.poll pingFirst now).1 = none) : (h.poll pingFirst now).2 = h := by
  unfold Heartbeat.poll at hnone ⊢
  split
  · rfl
  · next hticker =>
    rw [hticker] at hnone
    dsimp only at hnone ⊢
    split at hnone
    · cases hnone
    · next hping =>
      rw [if_neg hping]
      split at hnone
      · cases hnone
      · next hdog => rw [if_neg hdog]

/-- Collecting what is due leaves interval and timeout alone. -/
lemma pulse_poll (pingFirst : Bool) (now : Nat) (h : Heartbeat) :
    (h.poll pingFirst now).2.interval = h.interval ∧
      (h.poll pingFirst now).2.timeout = h.timeout := by
  unfold poll
  split
  · exact ⟨rfl, rfl⟩
  · dsimp only
    split
    · exact ⟨rfl, rfl⟩
    · split <;> exact ⟨rfl, rfl⟩

/-- Starting leaves interval and timeout alone. -/
lemma pulse_start (now : Nat) (h : Heartbeat) :
    (h.start now).interval = h.interval ∧ (h.start now).timeout = h.timeout := by
  unfold start
  split <;> exact ⟨rfl, rfl⟩

/-- What starting a heartbeat does that is not running. -/
lemma start_of_none {h : Heartbeat} (hticker : h.ticker = none) (now : Nat) :
    h.start now = { h with ticker := some (now + h.interval) } := by
  rw [start, hticker]

/-- A ping that is collected moves the ticker on, and leaves the watchdog alone. -/
lemma poll_ping {pingFirst : Bool} {now : Nat} {h : Heartbeat}
    (hping : (h.poll pingFirst now).1 = some .ping) :
    ∃ tick, h.ticker = some tick ∧ tick ≤ now ∧
      (h.poll pingFirst now).2 = { h with ticker := some (nextTick h.interval now tick) } := by
  unfold poll at hping ⊢
  cases hticker : h.ticker with
  | none => simp [hticker] at hping
  | some tick =>
    simp only [hticker] at hping ⊢
    split at hping
    · next hdue =>
      rw [if_pos hdue]
      exact ⟨tick, rfl, hdue.1, rfl⟩
    · split at hping <;> cases hping

/-- The watchdog has run out when its end is collected. -/
lemma poll_timeout {pingFirst : Bool} {now : Nat} {h : Heartbeat}
    (htimeout : (h.poll pingFirst now).1 = some .timeout) :
    h.ticker.isSome ∧ ∃ dog, h.watchdog = some dog ∧ dog ≤ now := by
  unfold poll at htimeout
  cases hticker : h.ticker with
  | none => simp [hticker] at htimeout
  | some tick =>
    simp only [hticker] at htimeout
    split at htimeout
    · cases htimeout
    · split at htimeout
      · next hdog =>
        cases hwatchdog : h.watchdog with
        | none => simp [hwatchdog, isDue] at hdog
        | some dog => exact ⟨rfl, dog, rfl, by simpa [hwatchdog, isDue] using hdog⟩
      · cases htimeout

/-! ### On time -/

/-- Nothing has been due before a moment. -/
def OnTime (now : Nat) (h : Heartbeat) : Prop :=
  ∀ due, h.due? = some due → now ≤ due

instance (now : Nat) (h : Heartbeat) : Decidable (h.OnTime now) :=
  decidable_of_iff (∀ due ∈ h.due?, now ≤ due) Iff.rfl

variable {now tick : Nat} {h : Heartbeat}

/-- On time no ping has been due before. -/
lemma OnTime.le_tick (hnow : h.OnTime now) (hticker : h.ticker = some tick) : now ≤ tick := by
  cases hwatchdog : h.watchdog with
  | none => exact hnow tick (by simp [due?, hticker, hwatchdog])
  | some dog =>
    have hle := hnow (min tick dog) (by simp [due?, hticker, hwatchdog])
    omega

/-- On time the watchdog has not run out before. -/
lemma OnTime.le_dog {dog : Nat} (hnow : h.OnTime now) (hticker : h.ticker.isSome)
    (hwatchdog : h.watchdog = some dog) : now ≤ dog := by
  obtain ⟨tick, hticker⟩ := Option.isSome_iff_exists.1 hticker
  have hle := hnow (min tick dog) (by simp [due?, hticker, hwatchdog])
  omega

/-- **A ping on time.** It is collected when it is due, and the next one is due one interval
later. -/
lemma OnTime.ping (hnow : h.OnTime now) {pingFirst : Bool}
    (hping : (h.poll pingFirst now).1 = some .ping) :
    h.ticker = some now ∧
      (h.poll pingFirst now).2 = { h with ticker := some (now + h.interval) } := by
  obtain ⟨tick, hticker, hle, hpoll⟩ := poll_ping hping
  obtain rfl : tick = now := Nat.le_antisymm hle (hnow.le_tick hticker)
  refine ⟨hticker, hpoll.trans ?_⟩
  rw [nextTick, if_neg (by omega)]

/-- **The end of the watchdog on time.** It is collected when the watchdog runs out. -/
lemma OnTime.timeout (hnow : h.OnTime now) {pingFirst : Bool}
    (htimeout : (h.poll pingFirst now).1 = some .timeout) : h.watchdog = some now := by
  obtain ⟨hticker, dog, hwatchdog, hle⟩ := poll_timeout htimeout
  obtain rfl : dog = now := Nat.le_antisymm hle (hnow.le_dog hticker hwatchdog)
  exact hwatchdog

end Messenger.Heartbeat
