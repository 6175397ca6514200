import Mathlib.Tactic.Lemma
import Messenger.Dispatch.Registry

set_option relaxedAutoImplicit false
set_option autoImplicit false

/-!
# The roll of registrations

A registry keeps the registrations of each kind together. What it stands for is simpler: one list of
all registrations in the order in which they were made, each with a number of its own, from which
single ones are struck out or all at once. Listeners are known here by the numbers of their
registrations, so that two of them can be told apart even if they do the same.

## Main definitions

* `Messenger.Registry.Action`: what can be done to a registry.
* `Messenger.Registry.replay`: actions in a row.
* `Messenger.Registry.Roll`: registrations in the order in which they were made.
* `Messenger.Registry.Roll.of`: the roll after actions in a row.

## Main results

* `Messenger.Registry.agrees_replay`: the listeners of a registry are those of the roll, kind by
  kind.
* `Messenger.Registry.Roll.ascending_of`: no number is given twice, and the roll is in the order of
  the numbers.
-/

namespace Messenger.Registry

variable {α β : Type}

/-! ### The table of a registry -/

/-- After the registrations for a kind have been replaced, all the others were there before.

**Proof sketch.** Induction on the table, as the replacement goes through it: it ends at the entry
of the kind, or puts one at the end. -/
lemma mem_setListeners {kind : Kind} {new : List (Nat × α)} {table : List (Kind × List (Nat × α))}
    {entry : Kind × List (Nat × α)} (h : entry ∈ setListeners kind new table) :
    entry = (kind, new) ∨ entry ∈ table := by
  induction table with
  | nil =>
    unfold setListeners at h
    split at h
    · cases h
    · exact .inl (List.mem_singleton.1 h)
  | cons first rest ih =>
    obtain ⟨k, old⟩ := first
    unfold setListeners at h
    split at h
    · next hkind =>
      subst hkind
      split at h
      · exact .inr (List.mem_cons_of_mem _ h)
      · exact (List.mem_cons.1 h).imp_right (List.mem_cons_of_mem _)
    · rcases List.mem_cons.1 h with rfl | h
      · exact .inr (List.mem_cons_self ..)
      · exact (ih h).imp_right (List.mem_cons_of_mem _)

/-- The registrations for a kind are in the table, if there are any. -/
lemma listeners_cases (kind : Kind) (r : Registry α) :
    r.listeners kind = [] ∨ (kind, r.listeners kind) ∈ r.table := by
  unfold listeners
  cases hfound : r.table.lookup kind with
  | none => exact .inl rfl
  | some found =>
    obtain ⟨before, after, htable, -⟩ := List.lookup_eq_some_iff.1 hfound
    exact .inr (by simp [htable])

/-- Each kind has one entry at most. -/
def Distinct (table : List (Kind × List (Nat × α))) : Prop :=
  (table.map (·.1)).Nodup

/-- Each kind still has one entry at most after registrations have been replaced.

**Proof sketch.** Induction on the table. The new entry has the kind of the one in its place, and
behind entries of other kinds there is nothing else that could have theirs (`mem_setListeners`). -/
lemma Distinct.setListeners {table : List (Kind × List (Nat × α))} (h : Distinct table)
    (kind : Kind) (new : List (Nat × α)) : Distinct (setListeners kind new table) := by
  induction table with
  | nil =>
    unfold Registry.setListeners
    split
    · exact .nil
    · exact List.pairwise_singleton _ _
  | cons first rest ih =>
    obtain ⟨k, old⟩ := first
    obtain ⟨hk, hrest⟩ := List.nodup_cons.1 h
    unfold Registry.setListeners
    split
    · split
      · exact hrest
      · exact h
    · next hne =>
      refine List.nodup_cons.2 ⟨fun hmem => hk ?_, ih hrest⟩
      obtain ⟨entry, hentry, rfl⟩ := List.mem_map.1 hmem
      rcases mem_setListeners hentry with rfl | hentry
      · exact absurd rfl hne
      · exact List.mem_map.2 ⟨entry, hentry, rfl⟩

/-- The registrations of a kind after they have been replaced.

**Proof sketch.** Induction on the table. Where the kind has its entry, that one is replaced. If it
is dropped, since nothing is left, no other entry of the kind comes behind it. -/
lemma lookup_setListeners_self {table : List (Kind × List (Nat × α))} (h : Distinct table)
    (kind : Kind) (new : List (Nat × α)) :
    ((setListeners kind new table).lookup kind).getD [] = new := by
  induction table with
  | nil =>
    unfold setListeners
    split
    · next hnew => exact (List.isEmpty_iff.1 hnew).symm
    · simp
  | cons first rest ih =>
    obtain ⟨k, old⟩ := first
    obtain ⟨hk, hrest⟩ := List.nodup_cons.1 h
    unfold setListeners
    split
    · next hkind =>
      subst hkind
      split
      · next hnew =>
        have hnone : rest.lookup k = none := List.lookup_eq_none_iff.2 fun entry hentry =>
          bne_iff_ne.2 fun heq => hk (List.mem_map.2 ⟨entry, hentry, heq.symm⟩)
        rw [hnone, List.isEmpty_iff.1 hnew]
        rfl
      · simp
    · next hne =>
      rw [List.lookup_cons, beq_false_of_ne (Ne.symm hne)]
      exact ih hrest

/-- A new registration comes behind the earlier ones for its kind. -/
lemma listeners_on {r : Registry α} (h : Distinct r.table) (kind : Kind) (listener : α) :
    (r.on kind listener).2.listeners kind = r.listeners kind ++ [(r.nextId, listener)] :=
  lookup_setListeners_self h _ _

/-- Without a registration that has been removed the others for its kind are left. -/
lemma listeners_off {r : Registry α} (h : Distinct r.table) (kind : Kind) (id : Nat) :
    (r.off kind id).2.listeners kind = (r.listeners kind).filter fun l => l.1 != id :=
  lookup_setListeners_self h _ _

/-! ### Actions -/

/-- What can be done to a registry. -/
inductive Action (β : Type)
  /-- Registers a listener for a kind. -/
  | on (kind : Kind) (listener : β)
  /-- Removes a registration for a kind. -/
  | off (kind : Kind) (id : Nat)
  | clear

/-- Does something to a registry. A listener is registered together with its number. -/
def Action.perform : Action β → Registry (Nat × β) → Registry (Nat × β)
  | .on kind listener, r => (r.on kind (r.nextId, listener)).2
  | .off kind id, r => (r.off kind id).2
  | .clear, r => r.clear

/-- Actions in a row. -/
def replay (actions : List (Action β)) (r : Registry (Nat × β)) : Registry (Nat × β) :=
  actions.foldl (fun r action => action.perform r) r

/-- Actions in two parts. -/
lemma replay_append (actions actions' : List (Action β)) (r : Registry (Nat × β)) :
    replay (actions ++ actions') r = replay actions' (replay actions r) :=
  List.foldl_append

/-! ### Rolls -/

/-- A registration: its number, the kind and the listener. -/
structure Registration (β : Type) where
  id : Nat
  kind : Kind
  listener : β

/-- Registrations in the order in which they were made. -/
structure Roll (β : Type) where
  entries : List (Registration β)
  /-- The number of the next registration. -/
  nextId : Nat

namespace Roll

/-- Nobody is registered. -/
def empty : Roll β := ⟨[], 1⟩

/-- What an action does to the roll. -/
def perform (roll : Roll β) : Action β → Roll β
  | .on kind listener => ⟨roll.entries ++ [⟨roll.nextId, kind, listener⟩], roll.nextId + 1⟩
  | .off kind id =>
    { roll with entries := roll.entries.filter fun x => !(x.kind = kind ∧ x.id = id) }
  | .clear => { roll with entries := [] }

/-- The roll after actions in a row. -/
def of (actions : List (Action β)) : Roll β :=
  actions.foldl perform empty

/-- The registrations for a kind. -/
def forKind (kind : Kind) (roll : Roll β) : List (Registration β) :=
  roll.entries.filter (·.kind = kind)

/-- The numbers of a roll ascend, up to the one of the next registration. -/
structure Ascending (roll : Roll β) : Prop where
  entries : (roll.entries.map (·.id)).Pairwise (· < ·)
  below : ∀ x ∈ roll.entries, x.id < roll.nextId

/-- Every action keeps the order of the numbers.

**Proof sketch.** A new registration gets the next number, which is above all others, and to strike
out registrations leaves an ordered list ordered. -/
lemma Ascending.perform {roll : Roll β} (h : roll.Ascending) (action : Action β) :
    (roll.perform action).Ascending := by
  cases action with
  | on kind listener =>
    refine ⟨?_, ?_⟩
    · rw [Roll.perform, List.map_append, List.pairwise_append]
      refine ⟨h.entries, List.pairwise_singleton _ _, fun id hid id' hid' => ?_⟩
      obtain ⟨x, hx, rfl⟩ := List.mem_map.1 hid
      rw [List.mem_singleton.1 hid']
      exact h.below x hx
    · refine List.forall_mem_append.2 ⟨fun x hx => Nat.lt_succ_of_lt (h.below x hx), ?_⟩
      simp [Roll.perform]
  | off kind id =>
    refine ⟨h.entries.sublist (List.filter_sublist.map _), fun x hx => ?_⟩
    exact h.below x (List.mem_filter.1 hx).1
  | clear => exact ⟨.nil, by simp [Roll.perform]⟩

/-- **No number is given twice.** After any actions the numbers of the roll ascend. -/
lemma ascending_of (actions : List (Action β)) : (of actions).Ascending := by
  suffices hall : ∀ roll : Roll β, roll.Ascending → (actions.foldl perform roll).Ascending from
    hall empty ⟨.nil, by simp [empty]⟩
  induction actions with
  | nil => exact fun _ h => h
  | cons action rest ih => exact fun roll h => ih _ (h.perform action)

end Roll

/-! ### Agreement -/

/-- A registry stands for a roll: it has the registrations of each kind, in the same order. -/
structure Agrees (r : Registry (Nat × β)) (roll : Roll β) : Prop where
  distinct : Distinct r.table
  nextId : r.nextId = roll.nextId
  listeners : ∀ kind, r.listeners kind =
    (roll.forKind kind).map fun x => (x.id, x.id, x.listener)

/-- Every action does to a registry what it does to the roll.

**Proof sketch.** One case for each action, and in it one for the kind that it is about and one for
any other. To register puts a listener at the end of both, to remove strikes out the same numbers in
both, as a filter of a filter, and to clear leaves nothing in either. -/
lemma Agrees.perform {r : Registry (Nat × β)} {roll : Roll β} (h : r.Agrees roll)
    (action : Action β) : (action.perform r).Agrees (roll.perform action) := by
  cases action with
  | on kind listener =>
    refine ⟨h.distinct.setListeners _ _, congrArg (· + 1) h.nextId, fun other => ?_⟩
    by_cases hother : other = kind
    · subst hother
      refine (listeners_on h.distinct other (r.nextId, listener)).trans ?_
      rw [h.listeners, h.nextId]
      simp [Roll.perform, Roll.forKind]
    · refine (listeners_on_of_ne hother _ r).trans ?_
      rw [h.listeners]
      simp [Roll.perform, Roll.forKind, Ne.symm hother]
  | off kind id =>
    refine ⟨h.distinct.setListeners _ _, h.nextId, fun other => ?_⟩
    by_cases hother : other = kind
    · subst hother
      refine (listeners_off h.distinct other id).trans ?_
      rw [h.listeners, List.filter_map, Roll.forKind, List.filter_filter, Roll.forKind,
        Roll.perform, List.filter_filter]
      refine congrArg (List.map _) (List.filter_congr fun x _ => ?_)
      by_cases hkind : x.kind = other <;> by_cases hid : x.id = id <;> simp [hkind, hid]
    · refine (listeners_off_of_ne hother id r).trans ?_
      rw [h.listeners, Roll.forKind, Roll.forKind, Roll.perform, List.filter_filter]
      refine congrArg (List.map _) (List.filter_congr fun x _ => ?_)
      by_cases hkind : x.kind = other <;> simp [hkind, hother]
  | clear => exact ⟨.nil, h.nextId, fun _ => rfl⟩

/-- **The registry stands for the roll.** After any actions the listeners of the registry are those
of the roll, kind by kind. -/
theorem agrees_replay (actions : List (Action β)) :
    (replay actions .empty).Agrees (.of actions) := by
  suffices hall : ∀ (r : Registry (Nat × β)) (roll : Roll β), r.Agrees roll →
      (replay actions r).Agrees (actions.foldl Roll.perform roll) from
    hall .empty .empty ⟨.nil, rfl, fun _ => rfl⟩
  induction actions with
  | nil => exact fun _ _ h => h
  | cons action rest ih => exact fun r roll h => ih _ _ (h.perform action)

end Messenger.Registry
