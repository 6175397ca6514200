import Mathlib.Tactic.Lemma
import Messenger.Store.Memory

set_option relaxedAutoImplicit false
set_option autoImplicit false

/-!
# Honest storage

A storage can fail and still be honest: what is read is what it holds, what was written it holds,
and an operation on one key touches no other. Which operations fail is up to the storage, and so is
what a writing that failed leaves under its own key.

## Main definitions

* `Messenger.Storage.Honest`: what is read from a storage is what it holds.
* `Messenger.Store.Planned`: a storage in memory whose operations fail by plan.

## Main results

* `Messenger.Store.honest_planned`: whatever the plan is, the storage is honest.
-/

namespace Messenger

/-- As long as a storage is sound it holds a text under each of some keys, or none, and is honest
about it. To read a text may fail, and changes nothing. To write one may fail, and then nothing is
said of what its key holds. What is done to a key never touches another one. -/
structure Storage.Honest {σ : Type} [Storage σ] (keys : List String) (sound : σ → Prop)
    (held : String → σ → Option String) : Prop where
  sound_read : ∀ key ∈ keys, ∀ s : σ, sound s → sound (Storage.read key s).2
  sound_write : ∀ key ∈ keys, ∀ (value : String) (s : σ), sound s →
    sound (Storage.write key value s).2
  sound_remove : ∀ key ∈ keys, ∀ s : σ, sound s → sound (Storage.remove key s).2
  /-- What is read is what is held. -/
  read : ∀ key ∈ keys, ∀ s : σ, sound s →
    (Storage.read key s).1 = .ok (held key s) ∨ ∃ e, (Storage.read key s).1 = .error e
  held_read : ∀ key ∈ keys, ∀ other ∈ keys, ∀ s : σ, sound s →
    held other (Storage.read key s).2 = held other s
  /-- What has been written is held. -/
  held_write : ∀ key ∈ keys, ∀ (value : String) (s : σ), sound s →
    (Storage.write key value s).1 = .ok () → held key (Storage.write key value s).2 = some value
  held_write_of_ne : ∀ key ∈ keys, ∀ other ∈ keys, other ≠ key → ∀ (value : String) (s : σ),
    sound s → held other (Storage.write key value s).2 = held other s
  held_remove_of_ne : ∀ key ∈ keys, ∀ other ∈ keys, other ≠ key → ∀ s : σ, sound s →
    held other (Storage.remove key s).2 = held other s

namespace Store

/-- A storage in memory of which the next operations fail by plan. The plan tells for each of the
next readings whether it fails, and so for the next writings; all others succeed. -/
structure Planned where
  texts : Memory
  readings : List Bool
  writings : List Bool

namespace Planned

/-- One reading less is planned. -/
def nextReading (s : Planned) : Planned :=
  { s with readings := s.readings.tail }

/-- One writing less is planned. -/
def nextWriting (s : Planned) : Planned :=
  { s with writings := s.writings.tail }

instance : Storage Planned where
  read key s :=
    if s.readings.head? = some true then (.error (Faulty.injected "get"), s.nextReading)
    else (.ok (s.texts.get? key), s.nextReading)
  write key value s :=
    if s.writings.head? = some true then (.error (Faulty.injected "set"), s.nextWriting)
    else (.ok (), { s.nextWriting with texts := s.texts.put key value })
  remove key s := (.ok (), { s with texts := s.texts.erase key })

/-- What a storage in memory holds under a key. -/
def held (key : String) (s : Planned) : Option String :=
  s.texts.get? key

end Planned

/-- **A storage that fails by plan is honest.** This is so whatever the plan is, and what is true of
all plans is true of what is left of them.

**Proof sketch.** One law after the other. An operation that fails by plan touches no text, and any
other does what it does in a table. -/
theorem honest_planned (keys : List String) (plan : List Bool → List Bool → Prop)
    (hplan : ∀ readings writings, plan readings writings →
      plan readings.tail writings ∧ plan readings writings.tail) :
    Storage.Honest keys (fun s : Planned => plan s.readings s.writings) Planned.held where
  sound_read := by
    intro key _ s hs
    simp only [Storage.read]
    split <;> exact (hplan _ _ hs).1
  sound_write := by
    intro key _ value s hs
    simp only [Storage.write]
    split <;> exact (hplan _ _ hs).2
  sound_remove _ _ _ hs := hs
  read := by
    intro key _ s _
    simp only [Storage.read]
    split
    · exact .inr ⟨_, rfl⟩
    · exact .inl rfl
  held_read := by
    intro key _ other _ s _
    simp only [Storage.read]
    split <;> rfl
  held_write := by
    intro key _ value s _ hok
    simp only [Storage.write] at hok ⊢
    split at hok
    · cases hok
    · next hplanned =>
      rw [if_neg hplanned]
      exact (Table.get?_put key key value s.texts).trans (if_pos rfl)
  held_write_of_ne := by
    intro key _ other _ hne value s _
    simp only [Storage.write]
    split
    · rfl
    · exact (Table.get?_put key other value s.texts).trans (if_neg hne)
  held_remove_of_ne := by
    intro key _ other _ hne s _
    exact (Table.get?_erase key other s.texts).trans (if_neg hne)

end Store

end Messenger
