import Mathlib.Tactic.Lemma
import Messenger.Store.Memory

set_option relaxedAutoImplicit false
set_option autoImplicit false

/-!
# Reliable storage

A storage is reliable for some keys if what was put under one of them is read there until something
else is put under it or it is removed, whatever happens to the others of them.

## Main definitions

* `Messenger.Storage.Reliable`: a storage is reliable for some keys, as long as it is sound.

## Main results

* `Messenger.Store.reliable_memory`: the storage in memory is reliable for all keys.

## Design

What makes a storage work can depend on its state: a folder, for example, must not hold folders in
the place of files. So reliability comes with a condition on states, which the operations keep.
-/

namespace Messenger

/-- As long as a storage is sound, none of the operations on some keys fails to do what it is for,
none touches another one of the keys, and the storage stays sound. -/
structure Storage.Reliable {σ : Type} [Storage σ] (keys : List String) (sound : σ → Prop) :
    Prop where
  sound_read : ∀ key ∈ keys, ∀ s : σ, sound s → sound (Storage.read key s).2
  sound_write : ∀ key ∈ keys, ∀ (value : String) (s : σ), sound s →
    sound (Storage.write key value s).2
  sound_remove : ∀ key ∈ keys, ∀ s : σ, sound s → sound (Storage.remove key s).2
  /-- Reading changes nothing that can be read. -/
  read_read : ∀ key ∈ keys, ∀ other ∈ keys, ∀ s : σ, sound s →
    (Storage.read other (Storage.read key s).2).1 = (Storage.read other s).1
  /-- What was put under a key is read there, and all else is as before. -/
  read_write : ∀ key ∈ keys, ∀ other ∈ keys, ∀ (value : String) (s : σ), sound s →
    (Storage.read other (Storage.write key value s).2).1 =
      if other = key then .ok (some value) else (Storage.read other s).1
  /-- Nothing is read under a key that was removed, and all else is as before. -/
  read_remove : ∀ key ∈ keys, ∀ other ∈ keys, ∀ s : σ, sound s →
    (Storage.read other (Storage.remove key s).2).1 =
      if other = key then .ok none else (Storage.read other s).1

/-- A reliable storage leaves alone what is read under one key as long as it is used with another
one.

**Proof sketch.** One law after the other, each by the law for both keys: what is done under the one
key keeps what is read under the other. -/
lemma Storage.Reliable.beside {σ : Type} [Storage σ] {keys : List String} {sound : σ → Prop}
    (h : Storage.Reliable keys sound) {key other : String} (hkey : key ∈ keys)
    (hother : other ∈ keys) (hne : other ≠ key) (found : Except Error (Option String)) :
    Storage.Reliable [key] (fun s : σ => sound s ∧ (Storage.read other s).1 = found) where
  sound_read := by
    intro k hk s ⟨hs, hread⟩
    rw [List.mem_singleton.1 hk]
    exact ⟨h.sound_read key hkey s hs, (h.read_read key hkey other hother s hs).trans hread⟩
  sound_write := by
    intro k hk value s ⟨hs, hread⟩
    rw [List.mem_singleton.1 hk]
    refine ⟨h.sound_write key hkey value s hs, ?_⟩
    rw [h.read_write key hkey other hother value s hs, if_neg hne, hread]
  sound_remove := by
    intro k hk s ⟨hs, hread⟩
    rw [List.mem_singleton.1 hk]
    refine ⟨h.sound_remove key hkey s hs, ?_⟩
    rw [h.read_remove key hkey other hother s hs, if_neg hne, hread]
  read_read := by
    intro k hk o ho s ⟨hs, _⟩
    rw [List.mem_singleton.1 hk, List.mem_singleton.1 ho]
    exact h.read_read key hkey key hkey s hs
  read_write := by
    intro k hk o ho value s ⟨hs, _⟩
    rw [List.mem_singleton.1 hk, List.mem_singleton.1 ho]
    exact h.read_write key hkey key hkey value s hs
  read_remove := by
    intro k hk o ho s ⟨hs, _⟩
    rw [List.mem_singleton.1 hk, List.mem_singleton.1 ho]
    exact h.read_remove key hkey key hkey s hs

namespace Store

/-- **Memory is reliable.** The storage in memory is reliable for all keys, in every state.

**Proof sketch.** What is found in a table after an entry was put into it or taken out
(`Table.get?_put`, `Table.get?_erase`). -/
theorem reliable_memory (keys : List String) :
    Storage.Reliable keys (fun _ : Memory => True) where
  sound_read _ _ _ _ := trivial
  sound_write _ _ _ _ _ := trivial
  sound_remove _ _ _ _ := trivial
  read_read _ _ _ _ _ _ := rfl
  read_write key _ other _ value m _ := by
    show Except.ok ((m.put key value).get? other) = _
    rw [Table.get?_put]
    split <;> rfl
  read_remove key _ other _ m _ := by
    show Except.ok ((m.erase key).get? other) = _
    rw [Table.get?_erase]
    split <;> rfl

end Store

end Messenger
