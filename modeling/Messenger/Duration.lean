set_option relaxedAutoImplicit false
set_option autoImplicit false

/-!
# Durations

A duration is a whole number of nanoseconds of less than `2 ^ 64` seconds.

## Main definitions

* `Messenger.Duration`: the durations, ordered by length.
* `Messenger.Duration.ofParts?`, `Messenger.Duration.parts`: seconds and nanoseconds.
* `Messenger.Duration.mul?`: a multiple of a duration, if there is one.

## Main results

* `Messenger.Duration.mul?_eq_some_iff`: which multiples there are.
-/

namespace Messenger

/-- How many nanoseconds no duration has, `2 ^ 64` seconds. -/
def Duration.limit : Nat := 0x10000000000000000 * 1000000000

/-- A span of time. -/
@[ext] structure Duration where
  nanos : Nat
  lt_limit : nanos < Duration.limit
  deriving DecidableEq, Repr

namespace Duration

instance : Inhabited Duration := ⟨⟨0, by decide⟩⟩

/-- The duration of so many nanoseconds, if it is not too long. -/
def ofNanos? (n : Nat) : Option Duration :=
  if h : n < limit then some ⟨n, h⟩ else none

/-- The duration of the given seconds and nanoseconds, if it is not too long. -/
def ofParts? (seconds nanos : Nat) : Option Duration :=
  ofNanos? (seconds * 1000000000 + nanos)

/-- The duration of so many milliseconds, or the longest one if that would be too long. -/
def ofMillis (ms : Nat) : Duration :=
  ⟨min (ms * 1000000) (limit - 1), by unfold limit; omega⟩

/-- The whole seconds of a duration, and the nanoseconds beyond them. -/
def parts (d : Duration) : Nat × Nat :=
  (d.nanos / 1000000000, d.nanos % 1000000000)

/-- The whole milliseconds of a duration. -/
def millis (d : Duration) : Nat :=
  d.nanos / 1000000

instance : LE Duration := ⟨fun a b => a.nanos ≤ b.nanos⟩

instance (a b : Duration) : Decidable (a ≤ b) := Nat.decLe a.nanos b.nanos

instance : Min Duration := ⟨fun a b => if a ≤ b then a else b⟩

instance : Max Duration := ⟨fun a b => if a ≤ b then b else a⟩

/-- The `k`-fold duration, if it is not too long. -/
def mul? (d : Duration) (k : Nat) : Option Duration :=
  ofNanos? (d.nanos * k)

/-- The length of the shorter of two durations. -/
@[simp] theorem nanos_min (a b : Duration) : (min a b).nanos = min a.nanos b.nanos := by
  show (if a.nanos ≤ b.nanos then a else b).nanos = _
  split <;> omega

/-- The length of the longer of two durations. -/
@[simp] theorem nanos_max (a b : Duration) : (max a b).nanos = max a.nanos b.nanos := by
  show (if a.nanos ≤ b.nanos then b else a).nanos = _
  split <;> omega

/-- **Multiples are exact.** A multiple of a duration is given exactly if it is not too long, and
then it is the product. -/
theorem mul?_eq_some_iff {d e : Duration} {k : Nat} :
    d.mul? k = some e ↔ e.nanos = d.nanos * k := by
  unfold mul? ofNanos?
  constructor
  · intro h
    split at h
    · rw [← Option.some.inj h]
    · exact absurd h (by simp)
  · intro h
    have hlt := e.lt_limit
    rw [h] at hlt
    rw [dif_pos hlt]
    exact congrArg some (Duration.ext h.symm)

end Duration

end Messenger
