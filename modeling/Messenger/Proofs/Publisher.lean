import Mathlib.Data.List.Chain
import Mathlib.Tactic.Lemma
import Messenger.Publisher

set_option relaxedAutoImplicit false
set_option autoImplicit false

/-!
# What each watcher is told

Watchers come and go while the state changes, under identifiers that need not be their own, and any
of them may break down whenever it is told a state. A subscription is known here by the number of
the operation that made it, so that it can be followed from there on, whoever else watches.

## Main definitions

* `Messenger.Publisher.Operation`: what can be done to a publisher.
* `Messenger.Publisher.Scene`: a publisher with all that its subscriptions have been told.
* `Messenger.Publisher.Scene.heardBy`: what one subscription has been told.
* `Messenger.Publisher.changes`: the states that are entered by operations in a row.

## Main results

* `Messenger.Publisher.Scene.heardBy_run`: a subscription that stands is told every change until its
  identifier is removed.
* `Messenger.Publisher.each_told_once`: from its beginning to its end a subscription is told the
  state and every change of it, and nothing else.
-/

namespace Messenger.Publisher

/-- What can be done to a publisher. -/
inductive Operation (β : Type)
  | subscribe (id : Nat) (watcher : β)
  | unsubscribe (id : Nat)
  | transition (next : ConnectionState)

variable {β σ : Type}

/-- The operation removes the subscriptions of an identifier. -/
def Operation.removes (id : Nat) : Operation β → Bool
  | .unsubscribe id' => id' == id
  | _ => false

/-- The operations before the first that removes the subscriptions of an identifier. -/
def before (id : Nat) (ops : List (Operation β)) : List (Operation β) :=
  ops.takeWhile (!·.removes id)

/-- The states that are entered by operations in a row, from a state on. To enter a state again is
no change. -/
def changes (current : ConnectionState) : List (Operation β) → List ConnectionState
  | [] => []
  | .transition next :: rest =>
    if next = current then changes current rest else next :: changes next rest
  | .subscribe _ _ :: rest | .unsubscribe _ :: rest => changes current rest

/-- No state is entered from itself.

**Proof sketch.** Induction on the operations. A transition to the state that is current enters
nothing. -/
lemma isChain_changes (current : ConnectionState) (ops : List (Operation β)) :
    (current :: changes current ops).IsChain (· ≠ ·) := by
  induction ops generalizing current with
  | nil => exact .singleton _
  | cons op rest ih =>
    cases op with
    | subscribe id watcher => exact ih current
    | unsubscribe id => exact ih current
    | transition next =>
      unfold changes
      split
      · exact ih current
      · next hne => exact .cons_cons (Ne.symm hne) (ih next)

/-! ### Scenes -/

/-- A publisher whose subscriptions are numbered, with all that they have been told and the world in
which watchers do what they do. -/
structure Scene (β σ : Type) where
  publisher : Publisher (Nat × β)
  /-- The number of a subscription and the state that it was told, in the order of the calls. -/
  heard : List (Nat × ConnectionState)
  world : σ
  /-- The number of operations so far. -/
  count : Nat

/-- Calls the watcher of a subscription, and takes a note of the call. What the watcher does, and
whether it breaks down, may depend on anything in the world. -/
def tell (call : β → ConnectionState → σ → Outcome × σ) (subscription : Nat × β)
    (state : ConnectionState) (s : List (Nat × ConnectionState) × σ) :
    Outcome × List (Nat × ConnectionState) × σ :=
  let (outcome, world) := call subscription.2 state s.2
  (outcome, s.1 ++ [(subscription.1, state)], world)

namespace Scene

/-- Nobody has been told anything. -/
def start (first : ConnectionState) (world : σ) : Scene β σ :=
  ⟨.start first, [], world, 0⟩

/-- What an operation does, with its answer if it has one. A subscription gets the number of the
operation. -/
def perform (call : β → ConnectionState → σ → Outcome × σ) (x : Scene β σ) :
    Operation β → Option Bool × Scene β σ
  | .subscribe id watcher =>
    let (publisher, heard, world) :=
      x.publisher.subscribe (tell call) id (x.count, watcher) (x.heard, x.world)
    (none, ⟨publisher, heard, world, x.count + 1⟩)
  | .unsubscribe id =>
    (none, { x with publisher := x.publisher.unsubscribe id, count := x.count + 1 })
  | .transition next =>
    let (changed, publisher, heard, world) :=
      x.publisher.transition (tell call) next (x.heard, x.world)
    (some changed, ⟨publisher, heard, world, x.count + 1⟩)

/-- Operations in a row. -/
def run (call : β → ConnectionState → σ → Outcome × σ) (ops : List (Operation β))
    (x : Scene β σ) : Scene β σ :=
  ops.foldl (fun x op => (x.perform call op).2) x

/-- What a subscription has been told. -/
def heardBy (number : Nat) (x : Scene β σ) : List ConnectionState :=
  (x.heard.filter (·.1 = number)).map (·.2)

/-- The watchers that stand under the number of a subscription. -/
def standing (number : Nat) (x : Scene β σ) : List (Nat × Nat × β) :=
  x.publisher.watchers.filter (·.2.1 = number)

/-! ### One operation -/

variable (call : β → ConnectionState → σ → Outcome × σ)

/-- Watchers in a row are all told a state, whichever of them break down. -/
lemma fst_callAll_tell (state : ConnectionState) (watchers : List (Nat × Nat × β))
    (s : List (Nat × ConnectionState) × σ) :
    (callAll (fun w => tell call w.2 state) watchers s).2.1 =
      s.1 ++ watchers.map fun w => (w.2.1, state) := by
  induction watchers generalizing s with
  | nil => simp [callAll]
  | cons w watchers ih =>
    refine (ih (tell call w.2 state s).2).trans ?_
    simp [tell]

/-- Every operation is counted. -/
lemma count_perform (x : Scene β σ) (op : Operation β) :
    (x.perform call op).2.count = x.count + 1 := by
  cases op <;> rfl

/-- The number of operations in a row. -/
lemma count_run (ops : List (Operation β)) (x : Scene β σ) :
    (x.run call ops).count = x.count + ops.length := by
  induction ops generalizing x with
  | nil => rfl
  | cons op rest ih =>
    refine (ih _).trans ?_
    rw [count_perform, List.length_cons]
    omega

/-- Operations in two parts. -/
lemma run_append (ops ops' : List (Operation β)) (x : Scene β σ) :
    x.run call (ops ++ ops') = (x.run call ops).run call ops' :=
  List.foldl_append

/-- An operation enters the last of the states that it changes to. -/
lemma changes_cons (x : Scene β σ) (op : Operation β) (rest : List (Operation β)) :
    changes x.publisher.current (op :: rest) =
      changes x.publisher.current [op] ++ changes (x.perform call op).2.publisher.current rest := by
  cases op with
  | subscribe id watcher => rfl
  | unsubscribe id => rfl
  | transition next =>
    have hcurrent : (x.perform call (.transition next)).2.publisher.current = next :=
      current_transition (tell call) next x.publisher (x.heard, x.world)
    rw [hcurrent, changes, changes]
    split
    · next h => rw [h]; rfl
    · rfl

/-- An operation leaves the watchers of a number that is not given out by it, unless it removes
them. -/
lemma standing_perform {x : Scene β σ} {number : Nat} (h : number < x.count) (op : Operation β) :
    (x.perform call op).2.standing number = (x.standing number).filter (!op.removes ·.1) := by
  cases op with
  | subscribe id watcher =>
    have hne : x.count ≠ number := by omega
    simp [perform, subscribe, standing, Operation.removes, hne]
  | unsubscribe id =>
    simp only [perform, unsubscribe, standing, Operation.removes, List.filter_filter]
    refine List.filter_congr fun w _ => ?_
    rw [Bool.and_comm]
    exact congrArg (· && _) bne_comm
  | transition next =>
    have hsame : (x.perform call (.transition next)).2.standing number = x.standing number := by
      simp only [perform, transition, standing]
      split <;> rfl
    simp [hsame, Operation.removes]

/-- By an operation that does not give out its number a subscription is told the change, once for
each watcher that stands under the number.

**Proof sketch.** One case for each operation. Only a transition that changes the state tells
anything, and it tells every watcher once. -/
lemma heardBy_perform {x : Scene β σ} {number : Nat} (h : number < x.count) (op : Operation β) :
    (x.perform call op).2.heardBy number =
      x.heardBy number ++ (x.standing number).flatMap fun _ =>
        changes x.publisher.current [op] := by
  cases op with
  | subscribe id watcher =>
    have hne : x.count ≠ number := by omega
    simp [perform, subscribe, tell, heardBy, changes, hne]
  | unsubscribe id => simp [perform, heardBy, changes]
  | transition next =>
    by_cases hsame : next = x.publisher.current
    · simp [perform, transition, heardBy, changes, hsame]
    · have hheard : (x.perform call (.transition next)).2.heard =
          x.heard ++ x.publisher.watchers.map fun w => (w.2.1, next) := by
        simp only [perform, transition, if_neg hsame]
        exact fst_callAll_tell call next _ _
      simp only [heardBy, hheard, List.filter_append, List.map_append, changes, if_neg hsame,
        standing, List.filter_map, List.map_map, ← List.map_eq_flatMap]
      rfl

/-! ### Operations in a row -/

/-- Once no watcher stands under its number any more, a subscription is told nothing. -/
lemma heardBy_run_of_gone (ops : List (Operation β)) {x : Scene β σ} {number : Nat}
    (h : number < x.count) (hgone : x.standing number = []) :
    (x.run call ops).heardBy number = x.heardBy number ∧
      (x.run call ops).standing number = [] := by
  induction ops generalizing x with
  | nil => exact ⟨rfl, hgone⟩
  | cons op rest ih =>
    have hcount : number < (x.perform call op).2.count := by
      rw [count_perform]
      omega
    obtain ⟨hheard, hstanding⟩ := ih hcount (by rw [standing_perform call h, hgone]; rfl)
    refine ⟨hheard.trans ?_, hstanding⟩
    rw [heardBy_perform call h, hgone, List.flatMap_nil, List.append_nil]

/-- **Whoever watches is told everything.** A subscription that stands is told every change until
its identifier is removed, and it stands as long as that has not happened.

**Proof sketch.** Induction on the operations. If the first one removes the identifier the
subscription ends there, and nothing is told it later (`heardBy_run_of_gone`); that operation itself
changes no state. If not, it tells what it changes (`heardBy_perform`), and the subscription still
stands. -/
lemma heardBy_run (ops : List (Operation β)) {x : Scene β σ} {number id : Nat} {watcher : β}
    (h : number < x.count) (hstands : x.standing number = [(id, number, watcher)]) :
    (x.run call ops).heardBy number =
        x.heardBy number ++ changes x.publisher.current (before id ops) ∧
      (x.run call ops).standing number =
        if ops.any (·.removes id) then [] else [(id, number, watcher)] := by
  induction ops generalizing x with
  | nil => exact ⟨(List.append_nil _).symm, hstands⟩
  | cons op rest ih =>
    have hcount : number < (x.perform call op).2.count := by
      rw [count_perform]
      omega
    have hheard := heardBy_perform call h op
    have hstanding := standing_perform call h op
    rw [hstands] at hheard hstanding
    by_cases hremoves : op.removes id
    -- The subscription ends here, and is not told what comes later.
    · have hgone : (x.perform call op).2.standing number = [] := by
        simpa [hremoves] using hstanding
      have hquiet : changes x.publisher.current [op] = [] := by
        cases op with
        | unsubscribe id => rfl
        | _ => cases hremoves
      obtain ⟨hrest, hend⟩ := heardBy_run_of_gone call rest hcount hgone
      refine ⟨hrest.trans ?_, hend.trans ?_⟩
      · simp [hheard, hquiet, before, hremoves, changes]
      · simp [hremoves]
    · have hstays : (x.perform call op).2.standing number = [(id, number, watcher)] := by
        simpa [hremoves] using hstanding
      obtain ⟨hrest, hend⟩ := ih hcount hstays
      have hbefore : before id (op :: rest) = op :: before id rest := by
        simp [before, hremoves]
      refine ⟨hrest.trans ?_, hend.trans ?_⟩
      · rw [hheard, hbefore, List.flatMap_singleton, List.append_assoc, ← changes_cons call]
      · simp [hremoves]

/-! ### Numbers of subscriptions -/

/-- Nobody has been told anything, and nobody watches, under a number that is still to be given
out. -/
structure Numbered (x : Scene β σ) : Prop where
  heard : ∀ n ∈ x.heard, n.1 < x.count
  watchers : ∀ w ∈ x.publisher.watchers, w.2.1 < x.count

/-- Every operation gives out a new number.

**Proof sketch.** One case for each operation. A new watcher gets the number that is next, and what
is told in a transition is told to watchers that are there. -/
lemma Numbered.perform {x : Scene β σ} (h : x.Numbered) (op : Operation β) :
    (x.perform call op).2.Numbered := by
  have hheard : ∀ n ∈ x.heard, n.1 < x.count + 1 := fun n hn => Nat.lt_succ_of_lt (h.heard n hn)
  have hwatchers : ∀ w ∈ x.publisher.watchers, w.2.1 < x.count + 1 := fun w hw =>
    Nat.lt_succ_of_lt (h.watchers w hw)
  cases op with
  | subscribe id watcher =>
    refine ⟨List.forall_mem_append.2 ⟨hheard, ?_⟩, List.forall_mem_append.2 ⟨hwatchers, ?_⟩⟩
    · simp [count_perform]
    · simp [count_perform]
  | unsubscribe id => exact ⟨hheard, fun w hw => hwatchers w (List.mem_filter.1 hw).1⟩
  | transition next =>
    by_cases hsame : next = x.publisher.current
    · rw [Scene.perform, transition, if_pos hsame]
      exact ⟨hheard, hwatchers⟩
    · rw [Scene.perform, transition, if_neg hsame]
      refine ⟨?_, hwatchers⟩
      dsimp only
      rw [fst_callAll_tell]
      refine List.forall_mem_append.2 ⟨hheard, List.forall_mem_map.2 hwatchers⟩

/-- Operations in a row give out new numbers. -/
lemma Numbered.run (ops : List (Operation β)) {x : Scene β σ} (h : x.Numbered) :
    (x.run call ops).Numbered := by
  induction ops generalizing x with
  | nil => exact h
  | cons op rest ih => exact ih (h.perform call op)

/-- A new subscription is told the state, and stands. -/
lemma Numbered.subscribe {x : Scene β σ} (h : x.Numbered) (id : Nat) (watcher : β) :
    (x.perform call (.subscribe id watcher)).2.heardBy x.count = [x.publisher.current] ∧
      (x.perform call (.subscribe id watcher)).2.standing x.count = [(id, x.count, watcher)] := by
  have hheard : x.heard.filter (·.1 = x.count) = [] := by
    refine List.filter_eq_nil_iff.2 fun n hn => ?_
    simpa using Nat.ne_of_lt (h.heard n hn)
  have hwatchers : x.publisher.watchers.filter (·.2.1 = x.count) = [] := by
    refine List.filter_eq_nil_iff.2 fun w hw => ?_
    simpa using Nat.ne_of_lt (h.watchers w hw)
  constructor
  · simp [Scene.perform, Publisher.subscribe, tell, heardBy, hheard]
  · simp [Scene.perform, Publisher.subscribe, standing, hwatchers]

/-! ### The state and its copy -/

/-- Operations in a row end in the last state that is entered by them.

**Proof sketch.** Induction on the operations; an operation ends in the state that it enters, or in
the one before. -/
lemma current_run (ops : List (Operation β)) (x : Scene β σ) :
    (x.publisher.current :: changes x.publisher.current ops).getLast? =
      some (x.run call ops).publisher.current := by
  induction ops generalizing x with
  | nil => rfl
  | cons op rest ih =>
    refine Eq.trans ?_ (ih (x.perform call op).2)
    cases op with
    | subscribe id watcher => rfl
    | unsubscribe id => rfl
    | transition next =>
      have hcurrent : (x.perform call (.transition next)).2.publisher.current = next :=
        current_transition (tell call) next x.publisher (x.heard, x.world)
      rw [hcurrent, changes]
      split
      · next h => rw [h]
      · rfl

/-- The copy of the state follows it through every operation. -/
lemma cell_run (ops : List (Operation β)) {x : Scene β σ}
    (h : x.publisher.cell = x.publisher.current) :
    (x.run call ops).publisher.cell = (x.run call ops).publisher.current := by
  induction ops generalizing x with
  | nil => exact h
  | cons op rest ih =>
    refine ih (x := (x.perform call op).2) ?_
    cases op with
    | subscribe id watcher => exact h
    | unsubscribe id => exact h
    | transition next => exact cell_transition (tell call) next x.publisher (x.heard, x.world) h

/-- A transition answers whether the state is another one than before. -/
lemma fst_perform_transition (x : Scene β σ) (next : ConnectionState) :
    (x.perform call (.transition next)).1 = some true ↔
      (x.perform call (.transition next)).2.publisher.current ≠ x.publisher.current := by
  by_cases hsame : next = x.publisher.current
  · simp [perform, transition, hsame]
  · simp [perform, transition, hsame]

end Scene

/-- **Each change is told once.** Whatever operations there are, and whichever watchers break down
when they are told a state: a subscription is told the state at its beginning and then each state
that is entered before its identifier is removed, in order and never the same one twice in a row,
and nothing else. It stands until its identifier is removed, whatever happens to other ones. After
any operations a transition answers whether it changes the state, the state is the last one that was
entered, and its copy is the same.

**Proof sketch.** The run is cut at the operation that makes the subscription. Its number is new
(`Numbered`), so it has heard nothing before; it is told the state (`Numbered.subscribe`), and what
comes later is `Scene.heardBy_run`. No state is entered from itself (`isChain_changes`). The rest is
true of the single operation, and carried through the run. -/
theorem each_told_once (call : β → ConnectionState → σ → Outcome × σ) (first : ConnectionState)
    (world : σ) (ops : List (Operation β)) :
    (∀ earlier id watcher later, ops = earlier ++ .subscribe id watcher :: later →
        let current := ((Scene.start first world).run call earlier).publisher.current
        let x := (Scene.start first world).run call ops
        x.heardBy earlier.length = current :: changes current (before id later) ∧
          (x.heardBy earlier.length).IsChain (· ≠ ·) ∧
          x.standing earlier.length =
            if later.any (·.removes id) then [] else [(id, earlier.length, watcher)]) ∧
      (∀ next, let x := (Scene.start first world).run call ops
        (x.perform call (.transition next)).1 = some true ↔
          (x.perform call (.transition next)).2.publisher.current ≠ x.publisher.current) ∧
      (first :: changes first ops).getLast? =
        some ((Scene.start first world).run call ops).publisher.current ∧
      ((Scene.start first world).run call ops).publisher.cell =
        ((Scene.start first world).run call ops).publisher.current := by
  have hstart : (Scene.start first world : Scene β σ).Numbered :=
    ⟨by simp [Scene.start], by simp [Scene.start, Publisher.start]⟩
  refine ⟨?_, fun next => Scene.fst_perform_transition call _ next,
    Scene.current_run call ops (Scene.start first world),
    Scene.cell_run call ops (ConnectionState.ofByte_toByte first)⟩
  rintro earlier id watcher later rfl
  set x := (Scene.start first world).run call earlier with hx
  have hcount : x.count = earlier.length := by
    rw [hx, Scene.count_run]
    exact Nat.zero_add _
  obtain ⟨hheard, hstanding⟩ := (hstart.run call earlier).subscribe call id watcher
  have hlt : x.count < (x.perform call (.subscribe id watcher)).2.count := by
    rw [Scene.count_perform]
    omega
  obtain ⟨hrun, hend⟩ := Scene.heardBy_run call later hlt hstanding
  have hsplit : (Scene.start first world).run call (earlier ++ .subscribe id watcher :: later) =
      (x.perform call (.subscribe id watcher)).2.run call later :=
    Scene.run_append call earlier _ _
  have hall : ((Scene.start first world).run call
      (earlier ++ .subscribe id watcher :: later)).heardBy earlier.length =
        x.publisher.current :: changes x.publisher.current (before id later) := by
    rw [hsplit, ← hcount, hrun, hheard]
    rfl
  refine ⟨hall, ?_, ?_⟩
  · rw [hall]
    exact isChain_changes _ _
  · rw [hsplit, ← hcount, hend]

namespace Sample

/-- A watcher breaks down when it is told a certain state, or never. -/
def call (breaks : Option ConnectionState) (state : ConnectionState) (_ : Unit) : Outcome × Unit :=
  (if breaks = some state then .panicked else .returned, ())

/-- The first of two watchers with the same identifier breaks down, the state is entered again, and
both watchers are removed. -/
def operations : List (Operation (Option ConnectionState)) :=
  [.subscribe 1 (some .connecting), .transition .connecting, .subscribe 1 none,
    .transition .connecting, .transition .connected, .unsubscribe 1, .transition .reconnecting]

end Sample

/-- The watcher that breaks down is told all the same what happens until it is removed, and so is
the other one. -/
theorem each_told_once_breaking :
    let x := (Scene.start .disconnected ()).run Sample.call Sample.operations
    Sample.operations = [] ++ .subscribe 1 (some .connecting) :: Sample.operations.drop 1 ∧
      x.heardBy 0 = [.disconnected, .connecting, .connected] ∧ x.standing 0 = [] ∧
      Sample.operations =
        Sample.operations.take 2 ++ .subscribe 1 none :: Sample.operations.drop 3 ∧
      x.heardBy 2 = [.connecting, .connected] ∧ x.standing 2 = [] := by
  obtain ⟨heach, -⟩ := each_told_once Sample.call .disconnected () Sample.operations
  obtain ⟨hfirst, -, hgone⟩ := heach [] 1 (some .connecting) (Sample.operations.drop 1) rfl
  obtain ⟨hsecond, -, hgone'⟩ :=
    heach (Sample.operations.take 2) 1 none (Sample.operations.drop 3) rfl
  exact ⟨rfl, hfirst, hgone, rfl, hsecond, hgone'⟩

end Messenger.Publisher
