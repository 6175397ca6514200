import Messenger.Proofs.Store.Filing

set_option relaxedAutoImplicit false
set_option autoImplicit false

/-!
# A text that is refused

To write a text takes two steps, and each of them can fail: the draft may have a name that no file
can have, or a folder may stand where the draft or the file should be. A draft that is left behind
has a name that no file of a key has, so it is never read. A write therefore does all that it is
for, or nothing that anyone can see.

## Main results

* `Messenger.Store.Files.write_eq_ok_iff`: which texts can be written.
* `Messenger.Store.Files.read_of_draft`: what stands in the place of a draft is not read.
* `Messenger.Store.Files.write_all_or_nothing`: a write that fails changes nothing that is read.
-/

namespace Messenger.Store

namespace Folder

variable {name other : String} {f f' : Folder}

/-! ### Names that were accepted -/

/-- A file can be under a name that can be looked up, unless a folder is found there. -/
lemma free_of_access {found : Option Entry} (h : access name f = .ok found)
    (hvacant : found ≠ some .folder) : Free name f := by
  unfold access at h
  split at h
  · exact absurd (Except.ok.inj h).symm hvacant
  · next hdots =>
    obtain ⟨hitself, habove⟩ := not_or.1 hdots
    split at h
    · cases h
    · next hfits =>
      rw [← Except.ok.inj h] at hvacant
      exact ⟨hitself, habove, Nat.not_lt.1 hfits, hvacant⟩

/-- A file could be where one was written. -/
lemma free_of_writeFile {bytes : ByteArray} (h : writeFile name bytes f = .ok f') :
    Free name f := by
  unfold writeFile at h
  split at h
  · cases h
  · cases h
  · next hvacant haccess => exact free_of_access haccess hvacant

/-- A file could be under a name that one was given. -/
lemma free_of_rename (h : rename other name f = .ok f') : Free name f := by
  unfold rename at h
  split at h
  case h_5 hvacant _ haccess => exact free_of_access haccess hvacant
  all_goals cases h

end Folder

namespace Files

variable {key other : String} {s : Files}

/-! ### Texts that can be written -/

/-- A key whose text was written was ready: its draft was written, and then took the place of the
file, which the draft had left alone. -/
lemma ready_of_write {value : String} (h : (s.write key value).1 = .ok ()) : s.Ready key := by
  unfold write at h
  split at h
  · cases h
  · next drafted hdraft =>
    split at h
    · cases h
    · next done hrename =>
      have hfile := Folder.free_of_rename hrename
      have hsame : drafted.get? (fileName key) = s.folder.get? (fileName key) :=
        Folder.get?_of_writeFile hdraft (draftName_ne_fileName key key).symm
      exact ⟨hfile.of_get? (hsame ▸ hfile.vacant), Folder.free_of_writeFile hdraft⟩

/-- **When a text can be written.** A text can be written exactly if the key is ready. -/
theorem write_eq_ok_iff {value : String} : (s.write key value).1 = .ok () ↔ s.Ready key :=
  ⟨ready_of_write, fun h => congrArg Prod.fst (h.write_eq value)⟩

/-- What has been written is read under every key with the same file. -/
lemma Ready.read_write_of_eq (h : s.Ready key) (hfile : fileName other = fileName key)
    (value : String) : (s.write key value).2.read other = .ok (some value) := by
  have hthere := h.get?_write value (fileName key)
  rw [if_pos rfl] at hthere
  rw [read, hfile, (h.after_write h value).file.readText_eq hthere]

/-! ### Texts that cannot -/

/-- **A draft is never read.** What is read does not depend on what stands in the place of a draft:
nothing, half of a text, or a folder. -/
theorem read_of_draft {s' : Files}
    (h : ∀ name, name ≠ draftName key → s'.folder.get? name = s.folder.get? name)
    (other : String) : s'.read other = s.read other :=
  read_congr (h (fileName other) (draftName_ne_fileName key other).symm)

/-- A text that cannot be written is refused in one of two steps, and what it may leave behind is a
draft.

**Proof sketch.** A draft that could be written and a file that could take it would make the key
ready. So one of the two steps fails: the first leaves all as it was, and the second leaves the
draft. -/
lemma exists_of_not_ready (h : ¬ s.Ready key) (value : String) :
    ∃ step ∈ ["write", "commit"], ∃ cause,
      (s.write key value).1 = .error (failure step key cause) ∧
      ∀ name, name ≠ draftName key →
        (s.write key value).2.folder.get? name = s.folder.get? name := by
  have hrefused : (s.write key value).1 ≠ .ok () := fun hok => h (ready_of_write hok)
  unfold write at hrefused ⊢
  split
  · next cause _ => exact ⟨"write", by simp, cause, rfl, fun _ _ => rfl⟩
  · next drafted hdraft =>
    split
    · next cause _ =>
      exact ⟨"commit", by simp, cause, rfl, fun name hne => Folder.get?_of_writeFile hdraft hne⟩
    · next done hrename =>
      simp only [hdraft, hrename] at hrefused
      exact absurd rfl hrefused

/-- **A write does all or nothing.** Whatever lies in the folder, to write a text either goes well
or changes nothing that is read. If it goes well the text is read under all keys with the same safe
name, and all else is as before. It does not if the key is not ready: then it is refused in one of
the two steps, and under every key the same is read as before, be it a text, nothing or an error.

**Proof sketch.** By whether the key is ready. If so the write goes well (`write_eq_ok_iff`), is
read under the keys with that file, and touches no other. If not it is refused and leaves a draft at
most (`exists_of_not_ready`), which nobody reads (`read_of_draft`). -/
theorem write_all_or_nothing (key value : String) (s : Files) :
    ((s.write key value).1 = .ok () ∧ s.Ready key ∧
      ∀ other, (s.write key value).2.read other =
        if safeName other = safeName key then .ok (some value) else s.read other) ∨
    ((∃ step ∈ ["write", "commit"], ∃ cause,
        (s.write key value).1 = .error (failure step key cause)) ∧ ¬ s.Ready key ∧
      ∀ other, (s.write key value).2.read other = s.read other) := by
  by_cases hready : s.Ready key
  · refine .inl ⟨write_eq_ok_iff.2 hready, hready, fun other => ?_⟩
    split
    · next hsame => exact hready.read_write_of_eq (fileName_inj.2 hsame) value
    · next hother => exact read_write_of_ne (fun hfile => hother (fileName_inj.1 hfile)) value s
  · obtain ⟨step, hstep, cause, herror, hleft⟩ := exists_of_not_ready hready value
    exact .inr ⟨⟨step, hstep, cause, herror⟩, hready, read_of_draft hleft⟩

/-- A folder that stands in the place of a file lets the draft be written, and keeps it out. -/
example : (write "a" "new" ⟨⟨[("a.json", .folder), ("b.json", .file "old".toUTF8)]⟩⟩) =
    (.error (.storage "commit a failed: Is a directory (os error 21)"),
      ⟨⟨[("a.json.tmp", .file "new".toUTF8), ("a.json", .folder),
        ("b.json", .file "old".toUTF8)]⟩⟩) := rfl

end Files

end Messenger.Store
