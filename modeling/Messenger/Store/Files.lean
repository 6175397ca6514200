import Messenger.Store.Basic
import Messenger.Store.Folder

set_option relaxedAutoImplicit false
set_option autoImplicit false

/-!
# Storage in files

Every key has a file in one folder. A text is first written to a file of another name, which then
takes the place of the old one, so that the old text is there until the new one is complete. Keys
may hold any characters; those that are not safe in a name of a file are replaced, so that no key
leads out of the folder.

## Main definitions

* `Messenger.Store.safeName`: the characters of a key that are kept in the name of its file.
* `Messenger.Store.fileName`, `Messenger.Store.draftName`: the names of the two files of a key.
* `Messenger.Store.Files`: the storage in files.

## Main results

* `Messenger.Store.isSafe_of_mem_safeName`: a safe name has safe characters only.
-/

namespace Messenger.Store

/-- A character that is kept in the name of a file. -/
def isSafe (c : Char) : Bool :=
  c.isAlphanum || c == '.' || c == '-' || c == '_'

/-- The key with an underscore for each character that is not safe. -/
def safeName (key : String) : List Char :=
  key.toList.map fun c => if isSafe c then c else '_'

/-- The ending of the names of complete files. -/
def ending : List Char := ".json".toList

/-- What the names of incomplete files have in addition. -/
def draftEnding : List Char := ".tmp".toList

/-- The name of the file that holds the text of a key. -/
def fileName (key : String) : String :=
  String.ofList (safeName key ++ ending)

/-- The name of the file to which a text is written first. The empty key, whose file is named by
the ending alone, has the ending twice. The key of a single dot has no draft, for the name stops at
the dots and means the folder in which the files lie. -/
def draftName (key : String) : String :=
  match safeName key with
  | [] => String.ofList (ending ++ ending ++ draftEnding)
  | ['.'] => Folder.above
  | name => String.ofList (name ++ ending ++ draftEnding)

/-- A storage with one file for each key. -/
structure Files where
  folder : Folder
  deriving DecidableEq, Inhabited

namespace Files

/-- The failure of an operation on a key. -/
def failure (operation key : String) (e : FileError) : Error :=
  .storage (operation ++ " " ++ key ++ " failed: " ++ e.message)

/-- The text of a key. A file that is missing is no failure. -/
def read (key : String) (s : Files) : Except Error (Option String) :=
  match Folder.readText (fileName key) s.folder with
  | .ok text => .ok (some text)
  | .error .notFound => .ok none
  | .error e => .error (failure "read" key e)

/-- Writes the text of a key to a draft, then puts the draft in place. If the second step fails
the draft is left behind. -/
def write (key value : String) (s : Files) : Except Error Unit × Files :=
  match Folder.writeFile (draftName key) value.toUTF8 s.folder with
  | .error e => (.error (failure "write" key e), s)
  | .ok drafted =>
    match Folder.rename (draftName key) (fileName key) drafted with
    | .error e => (.error (failure "commit" key e), ⟨drafted⟩)
    | .ok done => (.ok (), ⟨done⟩)

/-- Removes the file of a key. A file that is missing is no failure. -/
def remove (key : String) (s : Files) : Except Error Unit × Files :=
  match Folder.removeFile (fileName key) s.folder with
  | .ok folder => (.ok (), ⟨folder⟩)
  | .error .notFound => (.ok (), s)
  | .error e => (.error (failure "remove" key e), s)

instance : Storage Files where
  read key s := (s.read key, s)
  write key value s := s.write key value
  remove key s := s.remove key

end Files

/-- A safe name has safe characters only. -/
theorem isSafe_of_mem_safeName {key : String} {c : Char} (h : c ∈ safeName key) : isSafe c := by
  obtain ⟨d, -, rfl⟩ := List.mem_map.1 h
  split
  · assumption
  · decide

/-- A safe name is as long as its key. -/
@[simp] theorem length_safeName (key : String) : (safeName key).length = key.toList.length :=
  List.length_map _

end Messenger.Store
