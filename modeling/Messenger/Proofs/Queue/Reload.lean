import Messenger.Proofs.Envelope.Reading
import Messenger.Proofs.Queue.Durable

set_option relaxedAutoImplicit false
set_option autoImplicit false

/-!
# A queue that is loaded anew

The stored text of a queue is read all or nothing, and the array around the envelopes costs one
level of nesting more than a frame does. So an envelope that came in a frame can be one that cannot
be read any more once it is stored, and then none of those can that are stored with it.

## Main definitions

* `Messenger.Queue.Offline.labels`: kinds and identifiers of envelopes.

## Main results

* `Messenger.Queue.Offline.reload_push_iff`: which envelopes leave a queue legible.
-/

namespace Messenger.Queue.Offline

variable {σ : Type} [Storage σ] {keys : List String} {sound : σ → Prop}

/-- What envelopes are compared by: their kinds and identifiers. -/
def labels (es : List Envelope) : List (Kind × String) :=
  es.map fun e => (e.kind, e.requestId)

/-- A queue that is loaded after its text has been written lists what is made of that text. -/
lemma items_load_persist (hr : Storage.Reliable keys sound) {q : Offline} {s : σ}
    (hkey : q.key ∈ keys) (hs : sound s) (now : Timestamp) :
    (load now q.key (q.persist s).2).1.items =
      (q.items.mapM (Envelope.reread? now 126)).getD [] := by
  have hread : (Storage.read q.key (q.persist s).2).1 =
      .ok (some (Envelope.encodeAll q.items)) := by
    rw [persist, hr.read_write q.key hkey q.key hkey _ s hs, if_pos rfl]
  rw [items_load, fst_readItems_of_ok hread, itemsOf, ← Envelope.toOption_decodeAll]
  cases Envelope.decodeAll now (Envelope.encodeAll q.items) <;> rfl

/-- If a queue holds envelopes that can be read again, one that is loaded after one more was added
lists them and what is made of that one, or nothing if nothing is made of it.

**Proof sketch.** The text that is written holds the envelopes and the new one behind them, and what
a stored text is read as is known (`items_load_persist`): all of them, or nothing. -/
lemma items_load_push (hr : Storage.Reliable keys sound) {q : Offline} {s : σ}
    (hkey : q.key ∈ keys) (hs : sound s) {began now : Timestamp} {items : List Envelope}
    (hheld : (q.contents began s).mapM (Envelope.reread? now 126) = some items) (e : Envelope) :
    (load now q.key (q.push began e s).2).1.items =
      ((e.reread? now 126).map fun e' => items ++ [e']).getD [] := by
  have hshown : (q.reattach began s).1.Over q.key sound (q.reattach began s).2 :=
    Over.reattach (hr.sound_read q.key hkey) ⟨rfl, hs⟩ began
  have hload := items_load_persist hr
    (q := { (q.reattach began s).1 with items := q.contents began s ++ [e] })
    (by simpa using hkey) hshown.sound_store now
  rw [List.mapM_append, hheld] at hload
  rw [push_eq]
  cases he : e.reread? now 126 with
  | none => simpa [he] using hload
  | some e' => simpa [he] using hload

/-- **One envelope can make all others illegible.** A queue over a reliable storage holds envelopes
that can be read again, and one more is added that came in a frame. A queue that is loaded then
lists all of them exactly if the payload of the new one nests at most 125 deep and all doubles in it
are legible. Otherwise it is empty.

**Proof sketch.** What the loaded queue lists depends on what is made of the new envelope alone
(`items_load_push`). An envelope that came in a frame is read again under just this condition
(`Envelope.Received.reread?_cases`), and then with its kind and its identifier. If nothing is made
of it the list is empty, which is not all of them, since the new one at least is missing. -/
theorem reload_push_iff (hr : Storage.Reliable keys sound) {q : Offline} {s : σ}
    (hkey : q.key ∈ keys) (hs : sound s) {began received : Timestamp} {earlier : List Envelope}
    (hheld : q.contents began s = earlier)
    (hearlier : ∀ now, ∃ items,
      Envelope.decodeAll now (Envelope.encodeAll earlier) = .ok items ∧
        labels items = labels earlier)
    (hreceived : received.Valid) {frame : String} {e : Envelope}
    (hdecode : Envelope.decode received frame = .ok e) (now : Timestamp) :
    (labels (load now q.key (q.push began e s).2).1.items = labels earlier ++ labels [e] ↔
        e.payload.depth ≤ 125 ∧ e.payload.Legible) ∧
      (¬ (e.payload.depth ≤ 125 ∧ e.payload.Legible) →
        (load now q.key (q.push began e s).2).1.items = []) := by
  obtain ⟨items, hitems, hlabels⟩ := hearlier now
  have hbefore : (q.contents began s).mapM (Envelope.reread? now 126) = some items := by
    rw [hheld, ← Envelope.toOption_decodeAll, hitems]
    rfl
  rw [items_load_push hr hkey hs hbefore]
  rcases (Envelope.received_of_decode hreceived hdecode).reread?_cases 125 now with
    ⟨hdepth, hlegible, e', he', hkind, hid⟩ | ⟨hnot, hnone⟩
  · have hlast : labels [e'] = labels [e] := by
      simp [labels, hkind, hid]
    rw [he', Option.map_some, Option.getD_some, labels, List.map_append]
    refine ⟨iff_of_true ?_ ⟨hdepth, hlegible⟩, fun hnot => absurd ⟨hdepth, hlegible⟩ hnot⟩
    exact congrArg₂ (· ++ ·) hlabels hlast
  · rw [hnone, Option.map_none, Option.getD_none]
    refine ⟨iff_of_false ?_ hnot, fun _ => rfl⟩
    simp [labels]

/-! ### Envelopes that poison a queue -/

namespace Sample

open Messenger.Sample (epoch note valid_epoch)

/-- A value that nests `n` deep. -/
def nest : Nat → Json.Value
  | 0 => .int 0
  | n + 1 => .array [nest n]

/-- A message whose payload is as deep as that of a frame can be. -/
def deep : Envelope :=
  ⟨.sendMessage, nest 126, epoch, "deep"⟩

/-- A storage in which the first note waits. -/
def storage : Store.Memory :=
  ⟨[("queue", Envelope.encodeAll [note 1])]⟩

/-- A value that nests can be told, and is as deep as it was asked for. -/
lemma nest_spec (n : Nat) : (nest n).Canonical ∧ (nest n).FloatFree ∧ (nest n).depth = n := by
  induction n with
  | zero => exact ⟨by constructor <;> decide, trivial, rfl⟩
  | succ n ih =>
    obtain ⟨hcanonical, hfloatFree, hdepth⟩ := ih
    refine ⟨⟨hcanonical, trivial⟩, ⟨hfloatFree, trivial⟩, ?_⟩
    show max (nest n).depth 0 + 1 = n + 1
    rw [hdepth, Nat.max_zero]

/-- A message that is too deep for a stored text can be told in a frame. -/
lemma faithful_deep : deep.Faithful 126 := by
  obtain ⟨hcanonical, hfloatFree, hdepth⟩ := nest_spec 126
  exact ⟨rfl, valid_epoch, hcanonical, hfloatFree, Nat.le_of_eq hdepth⟩

/-- The first note is loaded from the storage. -/
lemma items_load_storage : (load epoch "queue" storage).1.items = [note 1] := by
  have hread : (Storage.read "queue" storage).1 =
      .ok (some (Envelope.encodeAll [note 1])) := rfl
  rw [items_load, fst_readItems_of_ok hread, itemsOf_note (by decide)]

end Sample

/-- A note that came in a frame is listed behind the one that waits already. -/
theorem reload_note :
    ∃ q s, load Sample.epoch "queue" Sample.storage = (q, s) ∧
      (labels (load Sample.epoch q.key (q.push Sample.epoch (Sample.note 2) s).2).1.items =
          labels [Sample.note 1] ++ labels [Sample.note 2] ↔
        (Sample.note 2).payload.depth ≤ 125 ∧ (Sample.note 2).payload.Legible) := by
  obtain ⟨⟨q, s⟩, hload⟩ : ∃ first, load Sample.epoch "queue" Sample.storage = first := ⟨_, rfl⟩
  have hitems := Sample.items_load_storage
  have hshown := detached_load Sample.epoch "queue" Sample.storage
  rw [hload] at hitems hshown
  have hearlier : ∀ e ∈ [Sample.note 1], e.Faithful 125 := by
    intro e he
    rw [List.mem_singleton.1 he]
    exact Sample.faithful_note (by decide) 125
  exact ⟨q, s, hload, (reload_push_iff (Store.reliable_memory [q.key])
    (List.mem_singleton_self _) trivial ((contents_of_shown hshown _ s).trans hitems)
    (fun now => ⟨_, Envelope.decodeAll_encodeAll hearlier now, rfl⟩) Sample.valid_epoch
    (Envelope.decode_encode (Sample.faithful_note (by decide) 126) Sample.epoch) Sample.epoch).1⟩

/-- An envelope whose payload is too deep comes in a frame, and once it is stored behind a note a
queue that is loaded anew is empty.

**Proof sketch.** The payload nests 126 deep, so nothing is made of it in a stored text, and
`items_load_push` applies. -/
theorem poisoned_deep :
    Envelope.decode Sample.epoch Sample.deep.encode = .ok Sample.deep ∧
      ∃ q s, load Sample.epoch "queue" Sample.storage = (q, s) ∧ q.items = [Sample.note 1] ∧
        (load Sample.epoch q.key (q.push Sample.epoch Sample.deep s).2).1.items = [] := by
  obtain ⟨⟨q, s⟩, hload⟩ : ∃ first, load Sample.epoch "queue" Sample.storage = first := ⟨_, rfl⟩
  have hitems := Sample.items_load_storage
  have hshown := detached_load Sample.epoch "queue" Sample.storage
  rw [hload] at hitems hshown
  refine ⟨Envelope.decode_encode Sample.faithful_deep _, q, s, hload, hitems, ?_⟩
  have hheld : (q.contents Sample.epoch s).mapM (Envelope.reread? Sample.epoch 126) =
      some [Sample.note 1] := by
    rw [contents_of_shown hshown, hitems]
    simp [(Sample.faithful_note (n := 1) (by decide) 125).reread?_eq_some]
  have hnone : Sample.deep.reread? Sample.epoch 126 = none := by
    have hdepth := (Sample.nest_spec 126).2.2
    have hreceived := (Envelope.received_of_decode Sample.valid_epoch
      (Envelope.decode_encode Sample.faithful_deep Sample.epoch))
    rcases hreceived.reread?_cases 125 Sample.epoch with ⟨hle, -⟩ | ⟨-, hnone⟩
    · have hdeep : Sample.deep.payload.depth = 126 := hdepth
      omega
    · exact hnone
  rw [items_load_push (Store.reliable_memory [q.key]) (List.mem_singleton_self _) trivial hheld,
    hnone]
  rfl

end Messenger.Queue.Offline
