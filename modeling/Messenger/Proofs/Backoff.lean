import Mathlib.Algebra.Group.Nat.Defs
import Mathlib.Tactic.ByContra
import Mathlib.Tactic.Lemma
import Messenger.Backoff
import Messenger.Settings.Basic

set_option relaxedAutoImplicit false
set_option autoImplicit false

/-!
# The delays of valid settings

The count of failures stays at a highest number, the power of two by which the base is multiplied
stays below `2 ^ 32`, and a duration is too long at some point. With valid settings none of these
limits can be noticed: the cap is reached long before. The same is true of any base and any cap up
to the 32nd failure, and beyond it unless the cap is longer than the base taken `2 ^ 32 - 1` times.

## Main definitions

* `Messenger.Backoff.Reached`: the states that the delays can come to.
* `Messenger.Backoff.delays`: the delays of failures in a row.
* `Messenger.Settings.Retry.delay`: the delay after a number of failures, in milliseconds.
* `Messenger.Settings.Retry.backoff`: the state of the delays after a number of failures.

## Main results

* `Messenger.Settings.Retry.millis_next_backoff`: the delay after one more failure is the exact one,
  no matter how many failures there have been.
* `Messenger.Backoff.delays_exact`: when a delay is exact, and how delays grow in general.
-/

namespace Messenger

/-- The length of a number of milliseconds. -/
lemma Duration.nanos_ofMillis (ms : Nat) :
    (Duration.ofMillis ms).nanos = min (ms * 1000000) (Duration.limit - 1) := rfl

/-- The seconds and the nanoseconds of a multiple are those of the seconds and of the nanoseconds,
with a carry. There is no multiple if its seconds do not fit 64 bits.

**Proof sketch.** The product of the nanoseconds, divided by those of a second, is the product of
the seconds with the carry of the rest. -/
lemma Duration.parts_mul? (d : Duration) (k : Nat) :
    (d.mul? k).map parts =
      if d.parts.1 * k + d.parts.2 * k / 1000000000 < 2 ^ 64 then
        some (d.parts.1 * k + d.parts.2 * k / 1000000000, d.parts.2 * k % 1000000000)
      else none := by
  have hsplit : d.nanos * k = 1000000000 * (d.parts.1 * k) + d.parts.2 * k := by
    rw [← Nat.mul_assoc, ← Nat.add_mul, parts, Nat.div_add_mod]
  unfold mul? ofNanos? limit
  rw [hsplit]
  split
  · next hfits =>
    rw [if_pos (by omega), Option.map_some, parts]
    refine congrArg some (Prod.ext ?_ ?_)
    · show (1000000000 * (d.parts.1 * k) + d.parts.2 * k) / 1000000000 = _
      omega
    · show (1000000000 * (d.parts.1 * k) + d.parts.2 * k) % 1000000000 = _
      omega
  · next hlong =>
    rw [if_neg (by omega), Option.map_none]

/-- The bounds of valid delays. -/
lemma Settings.Retry.bounds_of_check {r : Retry} (h : r.check = .ok ()) :
    0 < r.baseDelay ∧ r.maxDelay ≤ 600000 ∧ r.baseDelay ≤ r.maxDelay := by
  unfold check at h
  split at h
  · cases h
  · split at h
    · cases h
    · omega

namespace Backoff

/-- A delay is the multiple of the base or the cap, whichever is shorter, even if there is no such
multiple.

**Proof sketch.** If there is no such multiple it would be longer than any duration, and so than the
cap. -/
lemma nanos_delayFor (base cap : Duration) (n : Nat) :
    (delayFor base cap n).nanos = min (base.nanos * factor n) cap.nanos := by
  unfold delayFor
  cases hmul : base.mul? (factor n) with
  | some d =>
    dsimp only
    rw [Duration.nanos_min, Duration.mul?_eq_some_iff.1 hmul]
  | none =>
    have hcap := cap.lt_limit
    have hlong : Duration.limit ≤ base.nanos * factor n := by
      by_contra hshort
      have hsome := Duration.mul?_eq_some_iff (d := base) (k := factor n)
        (e := ⟨base.nanos * factor n, Nat.lt_of_not_le hshort⟩)
      rw [hmul] at hsome
      cases hsome.2 rfl
    dsimp only
    omega

/-- Up to a cap below `2 ^ 32`, a base that is not zero is multiplied by the exact power of two.

**Proof sketch.** As long as the power of two is exact there is nothing to show. Beyond that both
sides have reached the cap, since the base is at least one. -/
lemma min_mul_factor {base cap : Nat} (hbase : 0 < base) (hcap : cap ≤ 0xFFFFFFFF) (n : Nat) :
    min (base * factor (min n maxAttempt)) cap = min (base * 2 ^ (n - 1)) cap := by
  unfold factor maxAttempt
  by_cases hsmall : n - 1 < 32
  · have hcount : min n 0xFFFFFFFF = n := by omega
    rw [hcount, if_pos hsmall]
    rfl
  · have hpower : 2 ^ 32 ≤ 2 ^ (n - 1) := Nat.pow_le_pow_right (by decide) (by omega)
    have hexact : 1 * 2 ^ 32 ≤ base * 2 ^ (n - 1) := Nat.mul_le_mul hbase hpower
    have hlimited : 1 * 0xFFFFFFFF ≤ base * 0xFFFFFFFF := Nat.mul_le_mul_right _ hbase
    rw [if_neg (by omega)]
    omega

/-! ### Any base and any cap -/

/-- The power of two is exact, or it is the greatest number below `2 ^ 32`. -/
lemma factor_eq_min (n : Nat) : factor n = min (2 ^ (n - 1)) 0xFFFFFFFF := by
  unfold factor
  split
  · next hsmall =>
    have hpower : 2 ^ (n - 1) ≤ 2 ^ 31 := Nat.pow_le_pow_right (by decide) (by omega)
    show 2 ^ (n - 1) = _
    omega
  · next hlarge =>
    have hpower : 2 ^ 32 ≤ 2 ^ (n - 1) := Nat.pow_le_pow_right (by decide) (by omega)
    omega

/-- With more failures the base is not multiplied by less. -/
lemma factor_mono {m n : Nat} (h : m ≤ n) : factor m ≤ factor n := by
  have hpower : 2 ^ (m - 1) ≤ 2 ^ (n - 1) := Nat.pow_le_pow_right (by decide) (by omega)
  rw [factor_eq_min, factor_eq_min]
  omega

/-- Where the power of two is not exact, the base is multiplied by enough to reach the cap. -/
lemma nanos_delayFor_eq {base cap : Duration} {n : Nat}
    (h : n ≤ 32 ∨ cap.nanos ≤ base.nanos * 0xFFFFFFFF) :
    (delayFor base cap n).nanos = min (base.nanos * 2 ^ (n - 1)) cap.nanos := by
  rw [nanos_delayFor, factor_eq_min]
  rcases Nat.le_total (2 ^ (n - 1)) 0xFFFFFFFF with hexact | hlimited
  · rw [Nat.min_eq_left hexact]
  -- The power is limited only beyond the 32nd failure, and there the cap is reached before.
  · have hcap : cap.nanos ≤ base.nanos * 0xFFFFFFFF := by
      refine h.resolve_left fun hn => ?_
      have hpower : 2 ^ (n - 1) ≤ 2 ^ 31 := Nat.pow_le_pow_right (by decide) (by omega)
      omega
    have hbeyond : base.nanos * 0xFFFFFFFF ≤ base.nanos * 2 ^ (n - 1) :=
      Nat.mul_le_mul_left _ hlimited
    rw [Nat.min_eq_right hlimited, Nat.min_eq_right hcap,
      Nat.min_eq_right (Nat.le_trans hcap hbeyond)]

/-- With more failures the delay is not shorter. -/
lemma delayFor_mono (base cap : Duration) {m n : Nat} (h : m ≤ n) :
    delayFor base cap m ≤ delayFor base cap n := by
  have hmul : base.nanos * factor m ≤ base.nanos * factor n :=
    Nat.mul_le_mul_left _ (factor_mono h)
  show (delayFor base cap m).nanos ≤ (delayFor base cap n).nanos
  rw [nanos_delayFor, nanos_delayFor]
  omega

/-! ### Failures in a row -/

/-- The states that the delays of a base and a cap can come to, by failures and successes. -/
inductive Reached (base cap : Duration) : Backoff → Prop
  | start : Reached base cap (.start base cap)
  | next {b : Backoff} (h : Reached base cap b) : Reached base cap b.next.2
  | reset {b : Backoff} (h : Reached base cap b) : Reached base cap b.reset

/-- The delays of so many failures in a row. -/
def delays : Nat → Backoff → List Duration
  | 0, _ => []
  | k + 1, b => b.next.1 :: delays k b.next.2

/-- Base and cap are always those of the start, where the cap is at least the base. -/
lemma Reached.bounds {base cap : Duration} {b : Backoff} (h : Reached base cap b) :
    b.base = base ∧ b.cap = max cap base := by
  induction h with
  | start => exact ⟨rfl, rfl⟩
  | next _ ih => exact ih
  | reset _ ih => exact ih

/-- The delays of failures in a row are those for the counts that go on from the count before, up to
the highest one.

**Proof sketch.** Induction on the number of failures. The first delay is for the count that is one
higher, and the others go on from there, up to the highest count. -/
lemma delays_eq (k : Nat) {b : Backoff} (h : b.attempt ≤ maxAttempt) :
    delays k b = (List.range k).map fun i =>
      delayFor b.base b.cap (min (b.attempt + (i + 1)) maxAttempt) := by
  induction k generalizing b with
  | zero => rfl
  | succ k ih =>
    have hcount : b.next.2.attempt ≤ maxAttempt := Nat.min_le_right _ _
    rw [delays, ih hcount, List.range_succ_eq_map, List.map_cons, List.map_map]
    refine congrArg (_ :: ·) (List.map_congr_left fun i _ => ?_)
    have hshift : min (b.next.2.attempt + (i + 1)) maxAttempt =
        min (b.attempt + (i + 1 + 1)) maxAttempt := by
      rw [attempt_next]
      omega
    rw [hshift]
    rfl

/-- The delays of failures in a row never become shorter. -/
lemma pairwise_delays (k : Nat) {b : Backoff} (h : b.attempt ≤ maxAttempt) :
    (delays k b).Pairwise (· ≤ ·) := by
  rw [delays_eq k h, List.pairwise_map]
  refine List.pairwise_lt_range.imp fun hlt => delayFor_mono _ _ ?_
  omega

/-- **No limit of the machine shows in a delay.** The limits are those of the count, of the power of
two and of durations (a multiple of seconds and nanoseconds with its carry fits 64 bits of seconds,
or there is none). They do not show up to the 32nd failure, and not at all if the cap is no longer
than the base taken `2 ^ 32 - 1` times, as in all valid settings: a delay is exactly the base,
doubled with every failure but the first, or the cap. For any base and any cap no delay is longer
than the cap, and with more failures it is not shorter. After a success the delays of failures in a
row, however many, are those for their number, with a cap of at least the base, and never become
shorter.

**Proof sketch.** A delay is the shorter of cap and multiple (`nanos_delayFor`), and where the power
of two is not exact the multiple has reached the cap (`nanos_delayFor_eq`). In valid settings the
base is not zero and the cap is ten minutes at most. The delays in a row are those for the counts in
a row (`delays_eq`), and a delay grows with its count (`delayFor_mono`). -/
theorem delays_exact (base cap : Duration) :
    (∀ k, (base.mul? k).map Duration.parts =
        if base.parts.1 * k + base.parts.2 * k / 1000000000 < 2 ^ 64 then
          some (base.parts.1 * k + base.parts.2 * k / 1000000000, base.parts.2 * k % 1000000000)
        else none) ∧
      (∀ n, n ≤ 32 ∨ cap.nanos ≤ base.nanos * 0xFFFFFFFF →
        (delayFor base cap n).nanos = min (base.nanos * 2 ^ (n - 1)) cap.nanos) ∧
      (∀ retry : Settings.Retry, retry.check = .ok () →
        (Duration.ofMillis retry.maxDelay).nanos ≤
          (Duration.ofMillis retry.baseDelay).nanos * 0xFFFFFFFF) ∧
      (∀ n, delayFor base cap n ≤ cap) ∧
      (∀ m n, m ≤ n → delayFor base cap m ≤ delayFor base cap n) ∧
      ∀ b, Reached base cap b → ∀ k,
        delays k b.reset = (List.range k).map (fun i =>
            delayFor base (max cap base) (min (i + 1) maxAttempt)) ∧
          (delays k b.reset).Pairwise (· ≤ ·) := by
  refine ⟨base.parts_mul?, fun n h => nanos_delayFor_eq h, ?_, delayFor_le_cap base cap,
    fun m n h => delayFor_mono base cap h, ?_⟩
  · intro retry hvalid
    obtain ⟨hbase, hcap, -⟩ := Settings.Retry.bounds_of_check hvalid
    rw [Duration.nanos_ofMillis, Duration.nanos_ofMillis, Duration.limit]
    omega
  · intro b hreached k
    obtain ⟨rfl, hcap⟩ := hreached.bounds
    have hcount : b.reset.attempt ≤ maxAttempt := Nat.zero_le _
    refine ⟨?_, pairwise_delays k hcount⟩
    rw [delays_eq k hcount, ← hcap]
    simp only [reset, Nat.zero_add]

/-- With the settings that go without saying, the delay of the 40th failure is the exact one, and
the delays of seven failures after a failure and a success double up to the cap. -/
theorem delays_exact_default :
    ({} : Settings.Retry).check = .ok () ∧
      Duration.nanos (.ofMillis 30000) ≤ Duration.nanos (.ofMillis 1000) * 0xFFFFFFFF ∧
      (delayFor (.ofMillis 1000) (.ofMillis 30000) 40).nanos =
        min (Duration.nanos (.ofMillis 1000) * 2 ^ 39) (Duration.nanos (.ofMillis 30000)) ∧
      Reached (.ofMillis 1000) (.ofMillis 30000)
        (start (.ofMillis 1000) (.ofMillis 30000)).next.2 ∧
      delays 7 (start (.ofMillis 1000) (.ofMillis 30000)).next.2.reset =
        [1000, 2000, 4000, 8000, 16000, 30000, 30000].map .ofMillis := by
  obtain ⟨-, hexact, hvalid, -, -, hrow⟩ := delays_exact (.ofMillis 1000) (.ofMillis 30000)
  have hcap := hvalid {} rfl
  have hreached : Reached (.ofMillis 1000) (.ofMillis 30000)
      (start (.ofMillis 1000) (.ofMillis 30000)).next.2 := .next .start
  exact ⟨rfl, hcap, hexact 40 (.inr hcap), hreached, (hrow _ hreached 7).1.trans (by decide)⟩

end Backoff

namespace Settings.Retry

/-- The delay after so many failures in a row, in milliseconds: the base, doubled with every failure
but the first, and at most the longest delay. -/
def delay (r : Retry) (failures : Nat) : Nat :=
  min (r.baseDelay * 2 ^ (failures - 1)) r.maxDelay

/-- The state of the delays after so many failures in a row. -/
def backoff (r : Retry) (failures : Nat) : Backoff :=
  { Backoff.start (.ofMillis r.baseDelay) (.ofMillis r.maxDelay) with
    attempt := min failures Backoff.maxAttempt }

/-- A success leads back to no failures. -/
lemma reset_backoff (r : Retry) (n : Nat) : (r.backoff n).reset = r.backoff 0 := rfl

/-- One more failure is counted. -/
lemma next_backoff (r : Retry) (n : Nat) : (r.backoff n).next.2 = r.backoff (n + 1) := by
  have hcount : min (min n Backoff.maxAttempt + 1) Backoff.maxAttempt =
      min (n + 1) Backoff.maxAttempt := by omega
  show { r.backoff n with attempt := min (min n Backoff.maxAttempt + 1) Backoff.maxAttempt } = _
  rw [hcount]
  rfl

/-- **Valid settings never meet a limit.** The delay after one more failure is the exact one, no
matter how many failures there have been.

**Proof sketch.** Base and cap are so short that both are exact in nanoseconds. The highest count
and the greatest power of two are passed long after the cap has been reached (`min_mul_factor`). -/
lemma millis_next_backoff {r : Retry} (h : r.check = .ok ()) (n : Nat) :
    (r.backoff n).next.1.millis = r.delay (n + 1) := by
  obtain ⟨hbase, hcap, hle⟩ := bounds_of_check h
  have hlong : ∀ ms ≤ 600000, (Duration.ofMillis ms).nanos = ms * 1000000 := by
    intro ms hms
    rw [Duration.nanos_ofMillis, Duration.limit]
    omega
  have hattempt : (r.backoff n).next.2.attempt = min (n + 1) Backoff.maxAttempt := by
    rw [next_backoff]
    rfl
  have hbounds : (r.backoff n).base.nanos = r.baseDelay * 1000000 ∧
      (r.backoff n).cap.nanos = r.maxDelay * 1000000 := by
    refine ⟨hlong _ (Nat.le_trans hle hcap), ?_⟩
    show (max (Duration.ofMillis r.maxDelay) (Duration.ofMillis r.baseDelay)).nanos = _
    rw [Duration.nanos_max, hlong _ hcap, hlong _ (Nat.le_trans hle hcap)]
    omega
  have hexact := Backoff.min_mul_factor hbase (Nat.le_trans hcap (by decide)) (n + 1)
  rw [Backoff.fst_next, hattempt, Duration.millis, Backoff.nanos_delayFor, hbounds.1, hbounds.2,
    Nat.mul_right_comm, delay, ← hexact]
  omega

end Settings.Retry

end Messenger
