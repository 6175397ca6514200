import Messenger.Duration

set_option relaxedAutoImplicit false
set_option autoImplicit false

/-!
# Delays between connection attempts

After every failure in a row the delay before the next attempt doubles, from a base up to a cap.
The failures are counted from the last success.

## Main definitions

* `Messenger.Backoff`: base, cap and the count of failures.
* `Messenger.Backoff.delayFor`: the delay after a number of failures.
* `Messenger.Backoff.next`: one more failure, and the delay after it.

## Main results

* `Messenger.Backoff.delayFor_le_cap`: no delay is longer than the cap.
* `Messenger.Backoff.attempt_next`: how the count goes on.
-/

namespace Messenger

/-- The state of the delays. -/
structure Backoff where
  base : Duration
  cap : Duration
  /-- The failures since the last success, up to `maxAttempt`. -/
  attempt : Nat
  deriving DecidableEq, Repr, Inhabited

namespace Backoff

/-- The highest count of failures, at which it stays. -/
def maxAttempt : Nat := 0xFFFFFFFF

/-- No failures yet. The cap is at least the base. -/
def start (base cap : Duration) : Backoff :=
  ⟨base, max cap base, 0⟩

/-- By how much the base is multiplied after `attempt` failures: a power of two below `2 ^ 32`, or
the greatest number below it. -/
def factor (attempt : Nat) : Nat :=
  if attempt - 1 < 32 then Nat.pow 2 (attempt - 1) else 0xFFFFFFFF

/-- The delay after `attempt` failures in a row: the base, doubled with every failure but the
first, and at most the cap. -/
def delayFor (base cap : Duration) (attempt : Nat) : Duration :=
  match base.mul? (factor attempt) with
  | some d => min d cap
  | none => cap

/-- A success: the failures are forgotten. -/
def reset (b : Backoff) : Backoff :=
  { b with attempt := 0 }

/-- Counts one more failure, and gives the delay after it. -/
def next (b : Backoff) : Duration × Backoff :=
  let attempt := min (b.attempt + 1) maxAttempt
  (delayFor b.base b.cap attempt, { b with attempt := attempt })

/-- No delay is longer than the cap. -/
theorem delayFor_le_cap (base cap : Duration) (n : Nat) :
    (delayFor base cap n).nanos ≤ cap.nanos := by
  unfold delayFor
  split
  · rw [Duration.nanos_min]; exact Nat.min_le_right _ _
  · exact Nat.le_refl _

/-- Every failure is counted, until the highest count is reached. -/
@[simp] theorem attempt_next (b : Backoff) : b.next.2.attempt = min (b.attempt + 1) maxAttempt :=
  rfl

/-- The delay is the one for the count that includes the failure. -/
theorem fst_next (b : Backoff) :
    b.next.1 = delayFor b.base b.cap b.next.2.attempt := rfl

end Backoff

end Messenger
