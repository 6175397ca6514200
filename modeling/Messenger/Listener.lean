set_option relaxedAutoImplicit false
set_option autoImplicit false

/-!
# Calling listeners

A listener is code of somebody else. It may do anything to the state it is called in, and it may
break down. When several listeners are called in a row, the breakdown of one does not keep the
others from being called.

## Main definitions

* `Messenger.Outcome`: how the call of a listener ended.
* `Messenger.callAll`: calls listeners in a row and counts those that returned.

## Main results

* `Messenger.callAll_append`: listeners in a row are called one after the other.
* `Messenger.fst_callAll_le`: not more listeners return than are called.
-/

namespace Messenger

/-- How the call of a listener ended. -/
inductive Outcome
  | returned
  | panicked
  deriving DecidableEq, Repr, Inhabited

/-- What is added to the count of the listeners that returned. -/
def Outcome.count : Outcome → Nat
  | returned => 1
  | panicked => 0

/-- Calls each listener in turn, on the state that the one before it left. Gives how many
returned, and the state at the end. -/
def callAll {α σ : Type} (call : α → σ → Outcome × σ) : List α → σ → Nat × σ
  | [], s => (0, s)
  | a :: rest, s =>
    let (outcome, s) := call a s
    let (n, s) := callAll call rest s
    (outcome.count + n, s)

/-- Listeners in a row are called one after the other. -/
theorem callAll_append {α σ : Type} (call : α → σ → Outcome × σ) (as bs : List α) (s : σ) :
    callAll call (as ++ bs) s =
      ((callAll call as s).1 + (callAll call bs (callAll call as s).2).1,
        (callAll call bs (callAll call as s).2).2) := by
  induction as generalizing s with
  | nil => simp [callAll]
  | cons a as ih => simp [callAll, ih, Nat.add_assoc]

/-- Not more listeners return than are called. -/
theorem fst_callAll_le {α σ : Type} (call : α → σ → Outcome × σ) (as : List α) (s : σ) :
    (callAll call as s).1 ≤ as.length := by
  induction as generalizing s with
  | nil => exact Nat.le_refl 0
  | cons a as ih =>
    have hc : (call a s).1.count ≤ 1 := by cases (call a s).1 <;> decide
    have hr := ih (call a s).2
    simp only [callAll, List.length_cons]
    omega

end Messenger
