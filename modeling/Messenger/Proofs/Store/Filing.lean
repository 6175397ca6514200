import Messenger.Proofs.Store.Apart
import Messenger.Proofs.Store.Reliable
import Messenger.Store.Tree

set_option relaxedAutoImplicit false
set_option autoImplicit false

/-!
# Where files are reliable

A storage in files can fail: a name can be too long for a file, or a folder can have it already.
Where neither is so for the files of some keys and for their drafts, nothing that is done with these
keys fails, and nothing of it makes it so. Only the text of the one key changes, if the files of the
keys have different names.

## Main definitions

* `Messenger.Store.Folder.Free`: a file can be under a name.
* `Messenger.Store.Files.Ready`: the text of a key can be written and removed.

## Main results

* `Messenger.Store.reliable_files`: the storage in files is reliable for keys that are ready and
  whose files have different names.
* `Messenger.Store.Tree.children_replaceChildren`: the entries of a folder that got others.
-/

namespace Messenger.Store

namespace Folder

variable {name : String} {f : Folder}

/-! ### Names -/

/-- A file can be under a name: it is one that files can have, and no folder has it. -/
structure Free (name : String) (f : Folder) : Prop where
  ne_itself : name ≠ itself
  ne_above : name ≠ above
  fits : name.utf8ByteSize ≤ maxNameLength
  vacant : f.get? name ≠ some .folder

/-- It depends on what is under the name alone whether a file can be there. -/
lemma Free.of_get? (h : Free name f) {f' : Folder} (hvacant : f'.get? name ≠ some .folder) :
    Free name f' :=
  ⟨h.ne_itself, h.ne_above, h.fits, hvacant⟩

/-- A name under which a file can be is one that can be looked up. -/
lemma Free.access_eq (h : Free name f) : access name f = .ok (f.get? name) := by
  unfold access
  rw [if_neg (not_or.2 ⟨h.ne_itself, h.ne_above⟩), if_neg (Nat.not_lt.2 h.fits)]

/-- A file can be written where one can be. -/
lemma Free.writeFile_eq (h : Free name f) (bytes : ByteArray) :
    writeFile name bytes f = .ok (f.put name (.file bytes)) := by
  unfold writeFile
  rw [h.access_eq]
  split
  · next herror => cases herror
  · next hfolder => exact absurd (Except.ok.inj hfolder) h.vacant
  · rfl

/-- A file can be given a name under which one can be. -/
lemma Free.rename_eq (h : Free name f) {old : String} (hold : Free old f) {bytes : ByteArray}
    (hfile : f.get? old = some (.file bytes)) :
    rename old name f = .ok ((f.erase old).put name (.file bytes)) := by
  have hvacant := h.vacant
  unfold rename
  rw [hold.access_eq, h.access_eq, hfile]
  cases hthere : f.get? name with
  | none => rfl
  | some entry =>
    cases entry with
    | file other => rfl
    | folder => exact absurd hthere hvacant

/-- A file can be removed where one can be, and then nothing is there. -/
lemma Free.removeFile_cases (h : Free name f) :
    removeFile name f = .ok (f.erase name) ∨
      removeFile name f = .error .notFound ∧ f.get? name = none := by
  have hvacant := h.vacant
  unfold removeFile
  rw [h.access_eq]
  cases hthere : f.get? name with
  | none => exact .inr ⟨rfl, rfl⟩
  | some entry =>
    cases entry with
    | file bytes => exact .inl rfl
    | folder => exact absurd hthere hvacant

/-- The text of a file is read where the file is. -/
lemma Free.readText_eq (h : Free name f) {text : String}
    (hfile : f.get? name = some (.file text.toUTF8)) : readText name f = .ok text := by
  have htext : String.fromUTF8? text.toUTF8 = some text := by
    exact dif_pos text.isValidUTF8
  simp only [readText, h.access_eq, hfile, htext]

/-- Where no file is none is found. -/
lemma Free.readText_of_none (h : Free name f) (hnone : f.get? name = none) :
    readText name f = .error .notFound := by
  simp only [readText, h.access_eq, hnone]

end Folder

namespace Files

variable {key other : String} {s : Files}

/-! ### Keys -/

/-- The text of a key can be written and removed: its file can be in the folder, and so can its
draft. -/
structure Ready (key : String) (s : Files) : Prop where
  file : s.folder.Free (fileName key)
  draft : s.folder.Free (draftName key)

/-- It depends on what is under the two names alone whether a key is ready. -/
lemma Ready.of_get? (h : s.Ready key) {s' : Files}
    (hget : ∀ name, s.folder.get? name ≠ some .folder → s'.folder.get? name ≠ some .folder) :
    s'.Ready key :=
  ⟨h.file.of_get? (hget _ h.file.vacant), h.draft.of_get? (hget _ h.draft.vacant)⟩

/-- To write the text of a key that is ready does not fail. The file has the text then, and no draft
is left.

**Proof sketch.** The draft is written, so that it is there, and then it takes the place of the
file, whose name is another one. -/
lemma Ready.write_eq (h : s.Ready key) (value : String) :
    s.write key value = (.ok (), ⟨((s.folder.put (draftName key) (.file value.toUTF8)).erase
      (draftName key)).put (fileName key) (.file value.toUTF8)⟩) := by
  obtain ⟨drafted, hdrafted⟩ :
    ∃ drafted, drafted = s.folder.put (draftName key) (.file value.toUTF8) := ⟨_, rfl⟩
  have hdraft : drafted.get? (draftName key) = some (.file value.toUTF8) := by
    rw [hdrafted, Table.get?_put, if_pos rfl]
  have hfile : drafted.get? (fileName key) = s.folder.get? (fileName key) := by
    rw [hdrafted, Table.get?_put, if_neg (draftName_ne_fileName key key).symm]
  have hold : Folder.Free (draftName key) drafted := h.draft.of_get? (by simp [hdraft])
  have hnew : Folder.Free (fileName key) drafted :=
    h.file.of_get? (hfile ▸ h.file.vacant)
  simp only [write, h.draft.writeFile_eq, ← hdrafted, hnew.rename_eq hold hdraft]

/-- What is under a name after the text of a key that is ready has been written. -/
lemma Ready.get?_write (h : s.Ready key) (value name : String) :
    (s.write key value).2.folder.get? name =
      if name = fileName key then some (.file value.toUTF8)
      else if name = draftName key then none else s.folder.get? name := by
  rw [h.write_eq, Table.get?_put, Table.get?_erase, Table.get?_put]
  split
  · rfl
  · split <;> rfl

/-- To remove the text of a key goes well if its file can be in the folder. Afterwards it is not. -/
lemma remove_of_free (h : s.folder.Free (fileName key)) :
    (s.remove key).1 = .ok () ∧ ∀ name, (s.remove key).2.folder.get? name =
      if name = fileName key then none else s.folder.get? name := by
  rcases h.removeFile_cases with hremove | ⟨hremove, hnone⟩
  · simp only [remove, hremove]
    exact ⟨trivial, fun name => Table.get?_erase _ name _⟩
  · simp only [remove, hremove]
    refine ⟨trivial, fun name => ?_⟩
    split
    · next hname => rw [hname, hnone]
    · rfl

/-- What is under a name after the text of a key that is ready has been removed. -/
lemma Ready.get?_remove (h : s.Ready key) (name : String) :
    (s.remove key).2.folder.get? name =
      if name = fileName key then none else s.folder.get? name :=
  (remove_of_free h.file).2 name

/-- To write the text of a key that is ready leaves every key ready. -/
lemma Ready.after_write (h : s.Ready key) (hother : s.Ready other) (value : String) :
    (s.write key value).2.Ready other := by
  refine hother.of_get? fun name hvacant => ?_
  rw [h.get?_write]
  split
  · simp
  · split
    · simp
    · exact hvacant

/-- To remove the text of a key that is ready leaves every key ready. -/
lemma Ready.after_remove (h : s.Ready key) (hother : s.Ready other) :
    (s.remove key).2.Ready other := by
  refine hother.of_get? fun name hvacant => ?_
  rw [h.get?_remove]
  split
  · simp
  · exact hvacant

/-- What has been written is read. -/
lemma Ready.read_write (h : s.Ready key) (value : String) :
    (s.write key value).2.read key = .ok (some value) := by
  have hthere := h.get?_write value (fileName key)
  rw [if_pos rfl] at hthere
  simp only [read, (h.after_write h value).file.readText_eq hthere]

/-- Nothing is read that has been removed. -/
lemma Ready.read_remove (h : s.Ready key) : (s.remove key).2.read key = .ok none := by
  have hgone := h.get?_remove (fileName key)
  rw [if_pos rfl] at hgone
  simp only [read, (h.after_remove h).file.readText_of_none hgone]

end Files

/-- **Files are a reliable storage where they can be.** The storage in files is reliable for keys
whose files have different names, as long as they are ready.

**Proof sketch.** For the key itself, what is read after a write and after a removal
(`Ready.read_write`, `Ready.read_remove`); for any other, that its file is left alone
(`Files.read_write_of_ne`, `Files.read_remove_of_ne`). -/
theorem reliable_files {keys : List String}
    (hkeys : ∀ key ∈ keys, ∀ other ∈ keys, fileName other = fileName key → other = key) :
    Storage.Reliable keys (fun s : Files => ∀ key ∈ keys, s.Ready key) where
  sound_read _ _ _ hs := hs
  sound_write key hkey value s hs other hother := (hs key hkey).after_write (hs other hother) value
  sound_remove key hkey s hs other hother := (hs key hkey).after_remove (hs other hother)
  read_read _ _ _ _ _ _ := rfl
  read_write key hkey other hother value s hs := by
    show (s.write key value).2.read other = _
    split
    · next heq => rw [heq, (hs key hkey).read_write]
    · next hne =>
      exact Files.read_write_of_ne (fun h => hne (hkeys key hkey other hother h)) value s
  read_remove key hkey other hother s hs := by
    show (s.remove key).2.read other = _
    split
    · next heq => rw [heq, (hs key hkey).read_remove]
    · next hne =>
      exact Files.read_remove_of_ne (fun h => hne (hkeys key hkey other hother h)) s

/-! ### Folders in a tree -/

namespace Tree

/-- The name within a folder of what lies directly in it. -/
lemma childName?_append (folder : Path) (name : String) :
    childName? folder (folder ++ [name]) = some name := by
  simp [childName?]

/-- A folder that got other entries has these.

**Proof sketch.** Of the entries that were there only those are kept that are not of the folder, and
every new one is found under its own name. -/
theorem children_replaceChildren (folder : Path) (new : Folder) (t : Tree) :
    (t.replaceChildren folder new).children folder = new := by
  obtain ⟨entries⟩ := new
  unfold replaceChildren children
  rw [List.filterMap_append]
  have hothers : (t.entries.filter fun e => (childName? folder e.1).isNone).filterMap
      (fun e => (childName? folder e.1).map (·, e.2)) = [] := by
    rw [List.filterMap_eq_nil_iff]
    intro e he
    have hnone := (List.mem_filter.1 he).2
    rw [Option.isNone_iff_eq_none.1 hnone]
    rfl
  have hnew : ((fun e => (childName? folder e.1).map (·, e.2)) ∘
      fun e : String × Entry => (folder ++ [e.1], e.2)) = some := by
    funext e
    show (childName? folder (folder ++ [e.1])).map (·, e.2) = some e
    rw [childName?_append, Option.map_some]
  rw [hothers, List.nil_append, List.filterMap_map, hnew, List.filterMap_some]

end Tree

end Messenger.Store
