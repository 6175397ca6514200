import Mathlib.Tactic.ByContra
import Mathlib.Tactic.Lemma
import Messenger.Settings.Basic
import Messenger.Store.Files

set_option relaxedAutoImplicit false
set_option autoImplicit false

/-!
# Keys that share a file

A storage in files replaces the characters of a key that are not safe in a name, so different keys
can have the same file. Keys whose files have different names never touch each other, whatever goes
wrong on the way; keys whose files have the same name do, unless that name is longer than any file
can have.

## Main results

* `Messenger.Store.Files.read_write_of_ne`, `Messenger.Store.Files.read_remove_of_ne`: the text of a
  key is left alone by what is done to a key with another file.
* `Messenger.Store.Files.apart_iff`: the queue and the room stay apart exactly if their files do.
-/

namespace Messenger.Store

/-! ### Names -/

/-- A draft never has the name of a complete file.

**Proof sketch.** The name of a file ends in the last letter of its ending. None of the three forms
that the name of a draft can have does. -/
lemma draftName_ne_fileName (key other : String) : draftName key ≠ fileName other := by
  intro h
  have hfile : (fileName other).toList.getLast? = some 'n' := by
    simp [fileName, ending]
  have hdraft : (draftName key).toList.getLast? ≠ some 'n' := by
    unfold draftName
    split
    · simp [ending, draftEnding]
    · simp [Folder.above]
    · simp [draftEnding]
  rw [h] at hdraft
  exact hdraft hfile

/-- Keys have the same file exactly if they have the same safe name. -/
lemma fileName_inj {key other : String} : fileName key = fileName other ↔
    safeName key = safeName other := by
  rw [fileName, fileName, String.ofList_inj, List.append_left_inj]

/-- The name of a complete file is none by which a folder is known. -/
lemma fileName_ne_dots (key : String) :
    fileName key ≠ Folder.itself ∧ fileName key ≠ Folder.above := by
  have hlast : (fileName key).toList.getLast? = some 'n' := by
    simp [fileName, ending]
  constructor <;> intro h <;> rw [h] at hlast <;> revert hlast <;> decide

/-- A draft has the name of its file with an ending, but for two keys that are short. -/
lemma draftName_eq {key : String} (h : 6 < (fileName key).utf8ByteSize) :
    draftName key = fileName key ++ String.ofList draftEnding := by
  unfold draftName
  split
  · next hsafe =>
    rw [fileName, hsafe] at h
    exact absurd h (by decide)
  · next hsafe =>
    rw [fileName, hsafe] at h
    exact absurd h (by decide)
  · rw [String.ofList_append, fileName]

namespace Folder

variable {name other : String} {f f' : Folder}

/-! ### Folders -/

/-- What is read from a file depends on what is under its name only. -/
lemma readText_congr (h : f'.get? name = f.get? name) : readText name f' = readText name f := by
  unfold readText access
  rw [h]

/-- To write a file leaves all other files alone. -/
lemma get?_of_writeFile {bytes : ByteArray} (h : writeFile name bytes f = .ok f')
    (hne : other ≠ name) : f'.get? other = f.get? other := by
  unfold writeFile at h
  split at h
  · cases h
  · cases h
  · cases h
    rw [Table.get?_put, if_neg hne]

/-- To give a file another name leaves all files alone but those of the two names. -/
lemma get?_of_rename {old new : String} (h : rename old new f = .ok f') (hold : other ≠ old)
    (hnew : other ≠ new) : f'.get? other = f.get? other := by
  unfold rename at h
  split at h
  case h_5 =>
    cases h
    rw [Table.get?_put, if_neg hnew, Table.get?_erase, if_neg hold]
  all_goals cases h

/-- To remove a file leaves all other files alone. -/
lemma get?_of_removeFile (h : removeFile name f = .ok f') (hne : other ≠ name) :
    f'.get? other = f.get? other := by
  unfold removeFile at h
  split at h
  case h_4 =>
    cases h
    rw [Table.get?_erase, if_neg hne]
  all_goals cases h

end Folder

namespace Files

variable {key other : String}

/-! ### Keys with different files -/

/-- The text of a key depends on its file only. -/
lemma read_congr {s s' : Files}
    (h : s'.folder.get? (fileName key) = s.folder.get? (fileName key)) :
    s'.read key = s.read key := by
  unfold read
  rw [Folder.readText_congr h]

/-- **Another file is not written.** To write the text of a key leaves alone the text of a key with
another file, also if it fails and a draft is left behind.

**Proof sketch.** A write makes a draft and renames it. A draft never has the name of a complete
file, so the first step leaves the other file alone, and the second touches but the draft and the
one file. -/
theorem read_write_of_ne (h : fileName other ≠ fileName key) (value : String) (s : Files) :
    (s.write key value).2.read other = s.read other := by
  have hdraft : fileName other ≠ draftName key := (draftName_ne_fileName key other).symm
  apply read_congr
  unfold write
  split
  · rfl
  · next drafted hwrite =>
    have hdrafted := Folder.get?_of_writeFile hwrite hdraft
    split
    · exact hdrafted
    · next done hrename => exact (Folder.get?_of_rename hrename hdraft h).trans hdrafted

/-- **Another file is not removed.** To remove the text of a key leaves alone the text of a key with
another file.

**Proof sketch.** A removal touches one name only, if it goes well. -/
theorem read_remove_of_ne (h : fileName other ≠ fileName key) (s : Files) :
    (s.remove key).2.read other = s.read other := by
  apply read_congr
  unfold remove
  split
  · next folder hremove => exact Folder.get?_of_removeFile hremove h
  · rfl
  · rfl

/-! ### Keys with the same file -/

/-- A folder with nothing but an empty file. -/
def single (name : String) : Files :=
  ⟨⟨[(name, .file ByteArray.empty)]⟩⟩

/-- To remove the text of a key removes that of every key with the same file, if the file can be
there.

**Proof sketch.** The name can be looked up, since it is none of the two dots and not too long.
Whatever key it is looked up for, there is an empty file before, and nothing after. -/
lemma read_remove_single (h : fileName other = fileName key)
    (hfits : (fileName key).utf8ByteSize ≤ Folder.maxNameLength) :
    (single (fileName key)).read other = .ok (some "") ∧
      ((single (fileName key)).remove key).2.read other = .ok none := by
  obtain ⟨hitself, habove⟩ := fileName_ne_dots key
  have haccess : ∀ f : Folder, Folder.access (fileName key) f = .ok (f.get? (fileName key)) := by
    intro f
    unfold Folder.access
    rw [if_neg (by simp [hitself, habove]), if_neg (Nat.not_lt.2 hfits)]
  have hfound : (single (fileName key)).folder.get? (fileName key) =
      some (.file ByteArray.empty) := by
    simp [single, Table.get?]
  have hremove : ((single (fileName key)).remove key).2.folder =
      (single (fileName key)).folder.erase (fileName key) := by
    simp only [remove, Folder.removeFile, haccess, hfound]
  have hgone := Table.get?_erase (fileName key) (fileName key) (single (fileName key)).folder
  rw [if_pos rfl] at hgone
  constructor
  · simp only [read, Folder.readText, h, haccess, hfound]
    rfl
  · simp only [read, Folder.readText, h, haccess, hremove, hgone]

/-- A name that no file can have is refused. -/
lemma access_of_too_long {name : String} (h : Folder.maxNameLength < name.utf8ByteSize)
    (f : Folder) : Folder.access name f = .error .nameTooLong := by
  unfold Folder.access
  rw [if_neg, if_pos h]
  rintro (rfl | rfl) <;> revert h <;> decide

/-- A key whose file cannot be there is neither written nor removed. -/
lemma unchanged_of_too_long (h : Folder.maxNameLength < (fileName key).utf8ByteSize)
    (value : String) (s : Files) : (s.write key value).2 = s ∧ (s.remove key).2 = s := by
  have hlong : 6 < (fileName key).utf8ByteSize := Nat.lt_of_le_of_lt (by decide) h
  have hdraft : Folder.maxNameLength < (draftName key).utf8ByteSize := by
    rw [draftName_eq hlong, String.utf8ByteSize_append]
    omega
  constructor
  · simp only [write, Folder.writeFile, access_of_too_long hdraft]
  · simp only [remove, Folder.removeFile, access_of_too_long h]

/-! ### The queue and the room -/

/-- **Keys stay apart exactly if their files do.** The keys of the queue and of the room stay apart,
so that neither to write or remove the room changes what is read of the queue, nor to write the
queue what is read of the room, exactly if their files have different names, or names that no file
can have. That the keys differ is not enough.

**Proof sketch.** If the files have one name that can be there, a folder with just that file shows
that they do not (`read_remove_single`). If the names differ, no operation on the one touches the
other (`read_write_of_ne`, `read_remove_of_ne`); and if there is one name that is too long, nothing
is ever written or removed. -/
theorem apart_iff (keys : Settings.Storage) :
    (∀ (s : Files) (value : String),
      (s.write keys.roomKey value).2.read keys.queueKey = s.read keys.queueKey ∧
      (s.remove keys.roomKey).2.read keys.queueKey = s.read keys.queueKey ∧
      (s.write keys.queueKey value).2.read keys.roomKey = s.read keys.roomKey) ↔
    safeName keys.queueKey ≠ safeName keys.roomKey ∨
      Folder.maxNameLength < (fileName keys.queueKey).utf8ByteSize := by
  constructor
  · intro h
    by_contra hnot
    obtain ⟨hsame, hfits⟩ := not_or.1 hnot
    have hfile : fileName keys.queueKey = fileName keys.roomKey :=
      fileName_inj.2 (not_not.1 hsame)
    rw [hfile] at hfits
    obtain ⟨hfound, hgone⟩ := read_remove_single hfile (Nat.not_lt.1 hfits)
    have hkept := (h (single (fileName keys.roomKey)) "").2.1
    rw [hfound, hgone] at hkept
    cases hkept
  · intro h s value
    by_cases hfile : fileName keys.queueKey = fileName keys.roomKey
    · -- The files have the same name, which is one that no file can have.
      have hlong := h.resolve_left (not_not.2 (fileName_inj.1 hfile))
      obtain ⟨hqueue, -⟩ := unchanged_of_too_long hlong value s
      rw [hfile] at hlong
      obtain ⟨hroom, hremove⟩ := unchanged_of_too_long hlong value s
      rw [hqueue, hroom, hremove]
      exact ⟨rfl, rfl, rfl⟩
    · exact ⟨read_write_of_ne hfile value s, read_remove_of_ne hfile s,
        read_write_of_ne (Ne.symm hfile) value s⟩

/-- Settings can be valid although the room is written over the messages that are not sent yet. -/
theorem room_written_over_queue :
    ∃ settings : Settings, settings.check = .ok () ∧
      ∃ s : Files, s.read settings.storage.queueKey = .ok (some "[]") ∧
        (s.write settings.storage.roomKey "7").2.read settings.storage.queueKey =
          .ok (some "7") := by
  refine ⟨{ endpoint := { origin := "ws://[::1]" }
            storage := { queueKey := "chat/queue", roomKey := "chat_queue" } }, rfl,
    ⟨⟨[("chat_queue.json", .file "[]".toUTF8)]⟩⟩, ?_, ?_⟩
  · rfl
  · rfl

end Files

end Messenger.Store
