import Mathlib.Data.List.Induction
import Mathlib.Data.List.Nodup
import Messenger.Proofs.Dispatch.Snapshot
import Messenger.Text.Numeral

set_option relaxedAutoImplicit false
set_option autoImplicit false

/-!
# The history of a registry

Whatever is done to a registry, from outside or by listeners that are being called, is answered at
once: a registration gets its number, and a removal is told whether there was something to remove.
The answers in their order are the history of the registry. It tells which registrations there can
be, and how many of them, and the table of the registry has no other entries.

## Main definitions

* `Messenger.Registry.Note`: what came of an action.
* `Messenger.Registry.notes`: what came of actions in a row.
* `Messenger.Registry.lately`: what came of them since the registry was last cleared.
* `Messenger.Registry.Represents`: the table of a registry is what a history makes of it.
* `Messenger.Dispatch.Use`: what is done with a registry from outside.

## Main results

* `Messenger.Registry.strikes_of_nodup`: a removal strikes out the registration that it names, or
  does nothing.
* `Messenger.Registry.represents_replay`: after any actions the table is what their history makes of
  it.
* `Messenger.Dispatch.represents_history`: this at every moment of any use of a registry, envelopes
  included whose listeners act on it.
-/

namespace Messenger

namespace Registry

variable {α β : Type}

/-! ### The table -/

/-- No kind has an entry without registrations. -/
def Filled (table : List (Kind × List (Nat × α))) : Prop :=
  ∀ entry ∈ table, entry.2 ≠ []

/-- No kind has an entry without registrations after some have been replaced.

**Proof sketch.** Induction on the table. The entry of the kind is replaced by one that is not
empty, or dropped. -/
lemma Filled.setListeners {table : List (Kind × List (Nat × α))} (h : Filled table) (kind : Kind)
    (new : List (Nat × α)) : Filled (setListeners kind new table) := by
  induction table with
  | nil =>
    unfold Registry.setListeners
    split
    · exact h
    · next hnew => simpa [Filled] using hnew
  | cons first rest ih =>
    obtain ⟨k, old⟩ := first
    obtain ⟨hold, hrest⟩ := List.forall_mem_cons.1 h
    unfold Registry.setListeners
    split
    · split
      · exact hrest
      · next hnew => exact List.forall_mem_cons.2 ⟨by simpa using hnew, hrest⟩
    · exact List.forall_mem_cons.2 ⟨hold, ih hrest⟩

/-- To replace registrations by themselves changes nothing. -/
lemma setListeners_lookup {table : List (Kind × List (Nat × α))} (h : Filled table) (kind : Kind) :
    setListeners kind ((table.lookup kind).getD []) table = table := by
  induction table with
  | nil => rfl
  | cons first rest ih =>
    obtain ⟨k, old⟩ := first
    obtain ⟨hold, hrest⟩ := List.forall_mem_cons.1 h
    unfold setListeners
    split
    · next hkind =>
      subst hkind
      simpa using hold
    · next hne =>
      rw [List.lookup_cons, beq_false_of_ne (Ne.symm hne)]
      exact congrArg (_ :: ·) (ih hrest)

/-! ### Removing -/

/-- To look for a number among registrations of different numbers finds none of it, or one.

**Proof sketch.** If the number is there the list is split at it. As no other registration has that
number, all the rest is kept. -/
lemma filter_cases {listeners : List (Nat × α)} (h : (listeners.map (·.1)).Nodup) (id : Nat) :
    (id ∉ listeners.map (·.1) ∧ listeners.filter (·.1 != id) = listeners) ∨
      ∃ before listener after, listeners = before ++ (id, listener) :: after ∧
        listeners.filter (·.1 != id) = before ++ after := by
  have hkeeps : ∀ some : List (Nat × α), id ∉ some.map (·.1) →
      some.filter (·.1 != id) = some := fun some hsome =>
    List.filter_eq_self.2 fun l hl => bne_iff_ne.2 fun heq => hsome (List.mem_map.2 ⟨l, hl, heq⟩)
  by_cases hmem : id ∈ listeners.map (·.1)
  · obtain ⟨⟨_, listener⟩, hl, rfl⟩ := List.mem_map.1 hmem
    obtain ⟨before, after, rfl⟩ := List.append_of_mem hl
    rw [List.map_append, List.map_cons, List.nodup_middle, List.nodup_cons, List.mem_append,
      not_or] at h
    refine .inr ⟨before, listener, after, rfl, ?_⟩
    rw [List.filter_append, List.filter_cons_of_neg (by simp), hkeeps _ h.1.1, hkeeps _ h.1.2]
  · exact .inl ⟨hmem, hkeeps _ hmem⟩

/-- To remove the registration of a number for a kind finds none and does nothing, or finds one and
strikes it out: the others stay, those of the same kind in the same order. -/
def Strikes (r : Registry α) (kind : Kind) (id : Nat) : Prop :=
  (id ∉ (r.listeners kind).map (·.1) ∧ r.off kind id = (false, r)) ∨
    ∃ before listener after, r.listeners kind = before ++ (id, listener) :: after ∧
      (r.off kind id).1 = true ∧ (r.off kind id).2.listeners kind = before ++ after ∧
      (∀ other, other ≠ kind → (r.off kind id).2.listeners other = r.listeners other) ∧
      (r.off kind id).2.nextId = r.nextId

/-- **A removal strikes out what it names.** The registration with the number goes, if it is there
under that kind, and all else stays as it is. If not, nothing is changed.

**Proof sketch.** `filter_cases` tells whether it is there. If not, the registrations are replaced
by themselves, which changes the table as little (`setListeners_lookup`). -/
lemma strikes_of_nodup {r : Registry α} (hdistinct : Distinct r.table) (hfilled : Filled r.table)
    {kind : Kind} (h : ((r.listeners kind).map (·.1)).Nodup) (id : Nat) : r.Strikes kind id := by
  rcases filter_cases h id with ⟨hnone, hkept⟩ | ⟨before, listener, after, hsplit, hkept⟩
  · refine .inl ⟨hnone, ?_⟩
    have htable : setListeners kind (r.listeners kind) r.table = r.table :=
      setListeners_lookup hfilled kind
    simp [off, hkept, htable]
  · refine .inr ⟨before, listener, after, hsplit, ?_, ?_, fun other hother => ?_, rfl⟩
    · simp only [off, hkept]
      simp [hsplit]
    · rw [listeners_off hdistinct, hkept]
    · exact listeners_off_of_ne hother id r

/-! ### History -/

/-- What came of an action. -/
inductive Note
  /-- A listener was registered for a kind, under a number. -/
  | registered (kind : Kind) (id : Nat)
  /-- The registration of a number for a kind was removed. -/
  | removed (kind : Kind) (id : Nat)
  /-- There was no registration of that number for that kind. -/
  | missed (kind : Kind) (id : Nat)
  | cleared
  deriving DecidableEq, Repr

/-- What comes of an action by the answer of the registry. -/
def Action.note (r : Registry (Nat × β)) : Action β → Note
  | .on kind listener => .registered kind (r.on kind (r.nextId, listener)).1
  | .off kind id => if (r.off kind id).1 then .removed kind id else .missed kind id
  | .clear => .cleared

/-- What comes of actions in a row. -/
def notes : List (Action β) → Registry (Nat × β) → List Note
  | [], _ => []
  | action :: rest, r => action.note r :: notes rest (action.perform r)

/-- The number that was given to a registration. -/
def Note.id? : Note → Option Nat
  | .registered _ id => some id
  | _ => none

/-- The numbers that were given to registrations, in their order. -/
def given (ns : List Note) : List Nat :=
  ns.filterMap Note.id?

/-- The kind and the number of a registration, which its handle keeps. -/
def Note.handle? : Note → Option (Kind × Nat)
  | .registered kind id => some (kind, id)
  | _ => none

/-- The handles that registrations gave, in their order. -/
def handles (ns : List Note) : List (Kind × Nat) :=
  ns.filterMap Note.handle?

/-- What came of actions since the registry was last cleared. -/
def lately (ns : List Note) : List Note :=
  ns.foldl (fun recent n => if n = .cleared then [] else recent ++ [n]) []

/-- How many registrations were made for a kind. -/
def registrations (kind : Kind) (ns : List Note) : Nat :=
  ns.countP fun | .registered k _ => k = kind | _ => false

/-- How many registrations were removed for a kind. -/
def removals (kind : Kind) (ns : List Note) : Nat :=
  ns.countP fun | .removed k _ => k = kind | _ => false

/-- What comes of actions of which one is the last. -/
lemma notes_concat (actions : List (Action β)) (action : Action β) (r : Registry (Nat × β)) :
    notes (actions ++ [action]) r = notes actions r ++ [action.note (replay actions r)] := by
  induction actions generalizing r with
  | nil => rfl
  | cons first rest ih => exact congrArg (_ :: ·) (ih _)

/-- What happened since the registry was last cleared, with one thing more. -/
lemma lately_concat (ns : List Note) (n : Note) :
    lately (ns ++ [n]) = if n = .cleared then [] else lately ns ++ [n] := by
  simp [lately]

/-- What is no clearing has happened lately. -/
lemma lately_concat_of_ne {n : Note} (h : n ≠ .cleared) (ns : List Note) :
    lately (ns ++ [n]) = lately ns ++ [n] := by
  rw [lately_concat, if_neg h]

/-- What is no registration gives no number. -/
lemma given_concat_of_none {n : Note} (h : n.id? = none) (ns : List Note) :
    given (ns ++ [n]) = given ns := by
  simp [given, h]

/-- What came before the registry was cleared does not matter. -/
lemma lately_append_cleared (before after : List Note) :
    lately (before ++ .cleared :: after) = lately after := by
  simp [lately]

/-- What happened lately has happened. -/
lemma mem_of_mem_lately {n : Note} {ns : List Note} (h : n ∈ lately ns) : n ∈ ns := by
  induction ns using List.reverseRecOn with
  | nil => exact h
  | append_singleton ns last ih =>
    rw [lately_concat] at h
    split at h
    · cases h
    · exact List.mem_append.2 ((List.mem_append.1 h).imp_left ih)

/-! ### The table and the history -/

/-- The table of a registry is what its history makes of it. -/
structure Represents (r : Registry α) (ns : List Note) : Prop where
  /-- Each kind has one entry at most. -/
  distinct : Distinct r.table
  /-- No kind has an entry without registrations. -/
  filled : Filled r.table
  ascending : ∀ kind, ((r.listeners kind).map (·.1)).Pairwise (· < ·)
  /-- The numbers that were given are 1, 2, 3 and so on: none is given twice. -/
  numbers : given ns = List.range' 1 (given ns).length
  strikes : ∀ kind id, r.Strikes kind id
  /-- A number that was given before the registry was cleared removes nothing. -/
  stale : ∀ before after, ns = before ++ .cleared :: after → ∀ id ∈ given before, ∀ kind,
    r.off kind id = (false, r)
  count : ∀ kind, r.count kind + removals kind (lately ns) = registrations kind (lately ns)

/-- What holds of a registry and its history from one action to the next. -/
structure Kept (r : Registry α) (ns : List Note) : Prop where
  distinct : Distinct r.table
  filled : Filled r.table
  nextId : r.nextId = (given ns).length + 1
  numbers : given ns = List.range' 1 (given ns).length
  ascending : ∀ kind, ((r.listeners kind).map (·.1)).Pairwise (· < ·)
  /-- Registrations that are left were made since the registry was last cleared. -/
  current : ∀ kind, ∀ id ∈ (r.listeners kind).map (·.1), id ∈ given (lately ns)
  count : ∀ kind, r.count kind + removals kind (lately ns) = registrations kind (lately ns)

namespace Kept

variable {r : Registry (Nat × β)} {ns : List Note}

/-- A number that stands in a registry is below the next one. -/
lemma lt_nextId (h : r.Kept ns) {kind : Kind} {id : Nat}
    (hid : id ∈ (r.listeners kind).map (·.1)) : id < r.nextId := by
  have hgiven : id ∈ given ns := by
    obtain ⟨n, hn, hnumber⟩ := List.mem_filterMap.1 (h.current kind id hid)
    exact List.mem_filterMap.2 ⟨n, mem_of_mem_lately hn, hnumber⟩
  rw [h.numbers, List.mem_range'_1] at hgiven
  have hnext := h.nextId
  omega

/-- A removal strikes out what it names. -/
lemma strikes (h : r.Kept ns) (kind : Kind) (id : Nat) : r.Strikes kind id :=
  strikes_of_nodup h.distinct h.filled ((h.ascending kind).imp Nat.ne_of_lt) id

/-- A registration keeps the history.

**Proof sketch.** The number is the next one. So it is above all that were given for the kind, which
keeps them ascending, and the numbers given are still a range. For the kind one registration more is
counted on both sides, for other kinds nothing changes. -/
lemma on (h : r.Kept ns) (kind : Kind) (listener : β) :
    (r.on kind (r.nextId, listener)).2.Kept (ns ++ [.registered kind r.nextId]) := by
  have hgiven : given (ns ++ [.registered kind r.nextId]) = given ns ++ [r.nextId] := by
    simp [given, Note.id?]
  have hlately : lately (ns ++ [.registered kind r.nextId]) =
      lately ns ++ [.registered kind r.nextId] := lately_concat_of_ne (by nofun) ns
  -- The new registration is the last one for its kind, and no other kind has changed.
  have hself := listeners_on h.distinct kind (r.nextId, listener)
  have hothers : ∀ other, other ≠ kind → (r.on kind (r.nextId, listener)).2.listeners other =
      r.listeners other := fun _ hne => listeners_on_of_ne hne _ r
  refine ⟨h.distinct.setListeners _ _, h.filled.setListeners _ _, ?_, ?_, fun other => ?_,
    fun other id hid => ?_, fun other => ?_⟩
  · rw [hgiven, List.length_append]
    exact congrArg (· + 1) h.nextId
  · rw [hgiven, List.length_append, List.length_singleton, List.range'_concat, ← h.numbers,
      h.nextId, Nat.one_mul, Nat.add_comm]
  · by_cases hother : other = kind
    · subst hother
      rw [hself, List.map_append, List.pairwise_append]
      refine ⟨h.ascending other, List.pairwise_singleton _ _, fun id hid id' hid' => ?_⟩
      rw [List.mem_singleton.1 hid']
      exact h.lt_nextId hid
    · rw [hothers other hother]
      exact h.ascending other
  · rw [hlately, given, List.filterMap_append, List.mem_append]
    by_cases hother : other = kind
    · subst hother
      rw [hself, List.map_append, List.mem_append] at hid
      refine hid.imp (h.current other id) fun hnew => ?_
      rw [List.mem_singleton.1 hnew]
      exact List.mem_singleton_self _
    · rw [hothers other hother] at hid
      exact .inl (h.current other id hid)
  · have hcount := h.count other
    simp only [Registry.count, registrations, removals] at hcount ⊢
    rw [hlately]
    by_cases hother : other = kind
    · subst hother
      simp only [hself, List.length_append, List.countP_append, List.countP_singleton,
        List.length_singleton, decide_true]
      simp only [Bool.false_eq_true, if_false, if_true]
      omega
    · rw [hothers other hother]
      simpa [Ne.symm hother] using hcount

/-- To find nothing to remove keeps the history. -/
lemma miss (h : r.Kept ns) (kind : Kind) (id : Nat) : r.Kept (ns ++ [.missed kind id]) := by
  have hgiven : given (ns ++ [.missed kind id]) = given ns := given_concat_of_none rfl ns
  have hlately : lately (ns ++ [.missed kind id]) = lately ns ++ [.missed kind id] :=
    lately_concat_of_ne (by nofun) ns
  refine ⟨h.distinct, h.filled, ?_, ?_, h.ascending, ?_, fun other => ?_⟩
  · rw [hgiven]
    exact h.nextId
  · rw [hgiven]
    exact h.numbers
  · rw [hlately, given_concat_of_none rfl]
    exact h.current
  · simpa [hlately, registrations, removals] using h.count other

/-- A removal keeps the history.

**Proof sketch.** `strikes` tells whether there is something to remove. If not, see `miss`. If so,
the registrations of every kind are among those before, and for the kind one removal more is counted
on the one side, and one registration less on the other. -/
lemma off (h : r.Kept ns) (kind : Kind) (id : Nat) :
    (r.off kind id).2.Kept (ns ++ [(Action.off (β := β) kind id).note r]) := by
  rcases h.strikes kind id with ⟨-, hmiss⟩ | ⟨before, listener, after, hsplit, hfound, hself,
    hothers, -⟩
  · rw [Action.note, hmiss]
    exact h.miss kind id
  · rw [Action.note, if_pos hfound]
    have hgiven : given (ns ++ [.removed kind id]) = given ns := given_concat_of_none rfl ns
    have hlately : lately (ns ++ [.removed kind id]) = lately ns ++ [.removed kind id] :=
      lately_concat_of_ne (by nofun) ns
    -- What is left of the registrations keeps its order.
    have hsublist : ∀ other, ((r.off kind id).2.listeners other).Sublist (r.listeners other) := by
      intro other
      by_cases hother : other = kind
      · subst hother
        rw [hself, hsplit]
        exact (List.sublist_cons_self _ after).append_left before
      · rw [hothers other hother]
    refine ⟨h.distinct.setListeners _ _, h.filled.setListeners _ _, ?_, ?_, fun other => ?_,
      fun other id' hid => ?_, fun other => ?_⟩
    · rw [hgiven]
      exact h.nextId
    · rw [hgiven]
      exact h.numbers
    · exact (h.ascending other).sublist ((hsublist other).map _)
    · rw [hlately, given_concat_of_none rfl]
      exact h.current other id' (((hsublist other).map _).subset hid)
    · have hcount := h.count other
      simp only [Registry.count, registrations, removals] at hcount ⊢
      rw [hlately]
      by_cases hother : other = kind
      · subst hother
        rw [hsplit] at hcount
        simp [hself] at hcount ⊢
        omega
      · rw [hothers other hother]
        simpa [Ne.symm hother] using hcount

/-- To clear a registry keeps the history. -/
lemma clear (h : r.Kept ns) : r.clear.Kept (ns ++ [.cleared]) := by
  have hgiven : given (ns ++ [.cleared]) = given ns := given_concat_of_none rfl ns
  refine ⟨.nil, nofun, ?_, ?_, fun _ => .nil, fun _ _ hid => ?_, fun _ => ?_⟩
  · rw [hgiven]
    exact h.nextId
  · rw [hgiven]
    exact h.numbers
  · cases hid
  · simp [lately_concat, registrations, removals, Registry.count, listeners, Registry.clear]

/-- Every action keeps the history. -/
lemma perform (h : r.Kept ns) (action : Action β) :
    (action.perform r).Kept (ns ++ [action.note r]) := by
  cases action with
  | on kind listener => exact h.on kind listener
  | off kind id => exact h.off kind id
  | clear => exact h.clear

/-- A number that was given before the registry was cleared stands for no kind any more: numbers are
given once only.

**Proof sketch.** A number in the table has been given since the registry was last cleared, so it
would be given twice. -/
lemma notMem_of_cleared (h : r.Kept ns) {before after : List Note}
    (hns : ns = before ++ .cleared :: after) {id : Nat} (hid : id ∈ given before) (kind : Kind) :
    id ∉ (r.listeners kind).map (·.1) := by
  intro hmem
  have hcurrent := h.current kind id hmem
  rw [hns, lately_append_cleared] at hcurrent
  obtain ⟨n, hn, hnumber⟩ := List.mem_filterMap.1 hcurrent
  have hafter : id ∈ given after := List.mem_filterMap.2 ⟨n, mem_of_mem_lately hn, hnumber⟩
  have hnodup : (given ns).Nodup := h.numbers ▸ List.nodup_range'
  have hsplit : given ns = given before ++ given after := by
    rw [hns, given, List.filterMap_append, List.filterMap_cons_none rfl]
    rfl
  rw [hsplit] at hnodup
  exact (List.nodup_append.1 hnodup).2.2 id hid id hafter rfl

/-- What is kept makes of the table what its history says. -/
lemma represents (h : r.Kept ns) : r.Represents ns := by
  refine ⟨h.distinct, h.filled, h.ascending, h.numbers, h.strikes, ?_, h.count⟩
  intro before after hns id hid kind
  rcases h.strikes kind id with ⟨-, hmiss⟩ | ⟨front, listener, rest, hsplit, -⟩
  · exact hmiss
  · refine absurd ?_ (h.notMem_of_cleared hns hid kind)
    simp [hsplit]

end Kept

/-- **The table is what its history makes of it.** This is so after any actions.

**Proof sketch.** Induction on the actions, with the invariant `Kept`: every action keeps it
(`Kept.perform`), and it tells all that is to be shown (`Kept.represents`). -/
theorem represents_replay (actions : List (Action β)) :
    (replay actions .empty).Represents (notes actions .empty) := by
  suffices hkept : (replay actions .empty).Kept (notes actions .empty) from hkept.represents
  induction actions using List.reverseRecOn with
  | nil =>
    exact ⟨.nil, nofun, rfl, rfl, fun _ => .nil, fun _ _ hid => (by cases hid), fun _ => rfl⟩
  | append_singleton actions action ih =>
    rw [notes_concat, replay_append]
    exact ih.perform action

end Registry

namespace Dispatch

open Registry (Action replay notes given handles)

variable {μ : Type}

/-! ### Any use of a registry -/

/-- What is done with a registry from outside. -/
inductive Use (μ : Type)
  | act (action : Action (Code μ))
  /-- Uses the handle that a registration gave, whoever made it; the first one has the turn 0. -/
  | unsubscribe (turn : Nat)
  | dispatch (e : Envelope)

/-- What becomes of the world, and of all that has been done to the registry so far, by one use of
it. Listeners dispatch envelopes to a depth of less than `depth`. -/
def Use.perform (depth : Nat) (use : Use μ) (s : List (Action (Code μ)) × World μ) :
    List (Action (Code μ)) × World μ :=
  match use with
  | .act action => (s.1 ++ [action], { s.2 with registry := action.perform s.2.registry })
  | .unsubscribe turn =>
    match (handles (notes s.1 .empty))[turn]? with
    | some (kind, id) =>
      (s.1 ++ [.off kind id], { s.2 with registry := (s.2.registry.off kind id).2 })
    | none => s
  | .dispatch e =>
    (s.1 ++ actionsOf (deliver depth e s.2).calls, (deliver depth e s.2).world)

/-- Uses in a row. -/
def performAll (depth : Nat) (uses : List (Use μ)) (s : List (Action (Code μ)) × World μ) :
    List (Action (Code μ)) × World μ :=
  uses.foldl (fun s use => use.perform depth s) s

/-- The registry is what all that has been done to it makes of it, whatever is done next. -/
lemma registry_perform {depth : Nat} {s : List (Action (Code μ)) × World μ}
    (h : s.2.registry = replay s.1 .empty) (use : Use μ) :
    (use.perform depth s).2.registry = replay (use.perform depth s).1 .empty := by
  cases use with
  | act action =>
    show action.perform s.2.registry = _
    rw [h, Use.perform, Registry.replay_append]
    rfl
  | unsubscribe turn =>
    unfold Use.perform
    dsimp only
    split
    · rw [h, Registry.replay_append]
      rfl
    · exact h
  | dispatch e =>
    show (deliver depth e s.2).world.registry = _
    rw [replay_deliver, h, Use.perform, Registry.replay_append]

/-- The registry is what all that has been done to it makes of it, after any uses. -/
lemma registry_performAll {depth : Nat} {s : List (Action (Code μ)) × World μ}
    (h : s.2.registry = replay s.1 .empty) (uses : List (Use μ)) :
    (performAll depth uses s).2.registry = replay (performAll depth uses s).1 .empty := by
  induction uses generalizing s with
  | nil => exact h
  | cons use rest ih => exact ih (registry_perform h use)

/-- **The table of a registry is at every moment what its history makes of it.** Whatever is done
with a registry: listeners are registered and removed, under their own kind or another one and by
numbers that need not be there, handles are used, the registry is cleared, and envelopes are
dispatched whose listeners do all this in their turn. At every moment of it, also while listeners
are being called, the table of the registry is what the history up to then makes of it. If fewer
than `2 ^ 64` registrations are made in all, their numbers fit into 64 bits.

**Proof sketch.** Each use only adds actions to those done so far, those of the listeners that it
calls included, and the registry is what these make of an empty one (`registry_performAll`). So it
stands at every moment for a part of the actions from their beginning, and `represents_replay` holds
of every such part. The numbers that are given are a range that begins at one. -/
theorem represents_history (memory : μ) (depth : Nat) (uses : List (Use μ)) :
    let s := performAll depth uses ([], ⟨.empty, memory, false⟩)
    s.2.registry = replay s.1 .empty ∧
      (∀ past, past <+: s.1 → (replay past .empty).Represents (notes past .empty)) ∧
      ((given (notes s.1 .empty)).length < Text.limit64 →
        ∀ id ∈ given (notes s.1 .empty), id < Text.limit64) := by
  intro s
  refine ⟨registry_performAll rfl uses, fun past _ => Registry.represents_replay past, ?_⟩
  intro hfew id hid
  rw [(Registry.represents_replay s.1).numbers, List.mem_range'_1] at hid
  omega

end Dispatch

end Messenger
