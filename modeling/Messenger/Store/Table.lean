set_option relaxedAutoImplicit false
set_option autoImplicit false

/-!
# Tables

A table holds values under keys, each key at most once.

## Main definitions

* `Messenger.Store.Table`: a list of keys with their values.
* `Messenger.Store.Table.get?`, `Messenger.Store.Table.put`, `Messenger.Store.Table.erase`: the
  operations.

## Main results

* `Messenger.Store.Table.get?_put`, `Messenger.Store.Table.get?_erase`: what is under a key after
  an operation.
-/

namespace Messenger.Store

/-- Values under keys. -/
structure Table (α : Type) where
  entries : List (String × α)
  deriving DecidableEq, Repr, Inhabited

namespace Table

variable {α : Type}

/-- A table without entries. -/
def empty : Table α := ⟨[]⟩

/-- The value under a key. -/
def get? (key : String) (t : Table α) : Option α :=
  t.entries.lookup key

/-- Leaves nothing under a key. -/
def erase (key : String) (t : Table α) : Table α :=
  ⟨t.entries.filter fun e => e.1 != key⟩

/-- Puts a value under a key, in place of the one that may be there. -/
def put (key : String) (value : α) (t : Table α) : Table α :=
  ⟨(key, value) :: (t.erase key).entries⟩

/-- The table of the given entries, of which the last of each key counts. -/
def ofList (entries : List (String × α)) : Table α :=
  entries.foldl (fun t e => t.put e.1 e.2) empty

/-- After an erasure nothing is under the key, and all else is as before.

**Proof sketch.** Induction on the entries, by whether the first one is under the erased key and
whether it is under the key that is asked for. -/
theorem get?_erase (key other : String) (t : Table α) :
    (t.erase key).get? other = if other = key then none else t.get? other := by
  obtain ⟨entries⟩ := t
  unfold erase get?
  induction entries with
  | nil => simp
  | cons e es ih =>
    obtain ⟨k, v⟩ := e
    by_cases hk : k = key
    · subst hk
      have hd : ((k, v) :: es).filter (fun e => e.1 != k) = es.filter fun e => e.1 != k := by simp
      rw [hd]
      by_cases ho : other = k
      · simpa [ho] using ih
      · have hb : (other == k) = false := by simpa using ho
        simpa [List.lookup_cons, ho, hb] using ih
    · by_cases ho : other = k
      · subst ho; simp [hk]
      · have hb : (other == k) = false := by simpa using ho
        simpa [List.lookup_cons, hk, hb] using ih

/-- After a value has been put under a key it is there, and all else is as before. -/
theorem get?_put (key other : String) (value : α) (t : Table α) :
    (t.put key value).get? other = if other = key then some value else t.get? other := by
  by_cases h : other = key
  · simp [put, get?, h]
  · have hb : (other == key) = false := by simpa using h
    have he := get?_erase key other t
    simp only [h, if_false] at he ⊢
    simp only [put, get?, List.lookup_cons, hb]
    exact he

end Table

end Messenger.Store
