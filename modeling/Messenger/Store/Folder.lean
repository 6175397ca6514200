import Messenger.Store.Table

set_option relaxedAutoImplicit false
set_option autoImplicit false

/-!
# Folders

A folder holds files and further folders, each under a name of its own. The names are not longer
than a file system allows. What is inside of the further folders does not matter here.

## Main definitions

* `Messenger.Store.Folder`: the entries of a folder.
* `Messenger.Store.Folder.readText`, `Messenger.Store.Folder.writeFile`,
  `Messenger.Store.Folder.rename`, `Messenger.Store.Folder.removeFile`: what can be done with
  files, and what can go wrong.
-/

namespace Messenger.Store

/-- What a name in a folder can stand for. -/
inductive Entry
  | file (bytes : ByteArray)
  | folder
  deriving Inhabited

instance : DecidableEq Entry
  | .file a, .file b =>
    match ByteArray.instDecidableEq a b with
    | .isTrue h => .isTrue (congrArg Entry.file h)
    | .isFalse h => .isFalse fun e => h (Entry.file.inj e)
  | .folder, .folder => .isTrue rfl
  | .file _, .folder => .isFalse nofun
  | .folder, .file _ => .isFalse nofun

/-- Files and folders under their names. -/
abbrev Folder := Table Entry

/-- What can go wrong with a file. -/
inductive FileError
  | notFound
  | nameTooLong
  | isFolder
  | notText
  deriving DecidableEq, Repr, Inhabited

/-- The error in words. -/
def FileError.message : FileError → String
  | notFound => "No such file or directory (os error 2)"
  | nameTooLong => "File name too long (os error 36)"
  | isFolder => "Is a directory (os error 21)"
  | notText => "stream did not contain valid UTF-8"

namespace Folder

/-- How many bytes a name can have. -/
def maxNameLength : Nat := 255

/-- The name by which every folder knows itself. -/
def itself : String := "."

/-- The name by which every folder knows the one in which it lies. -/
def above : String := ".."

/-- What is under a name, if the name is one that can be. -/
def access (name : String) (f : Folder) : Except FileError (Option Entry) :=
  if name = itself ∨ name = above then .ok (some .folder)
  else if maxNameLength < name.utf8ByteSize then .error .nameTooLong
  else .ok (f.get? name)

/-- The text of a file. -/
def readText (name : String) (f : Folder) : Except FileError String :=
  match access name f with
  | .error e => .error e
  | .ok none => .error .notFound
  | .ok (some .folder) => .error .isFolder
  | .ok (some (.file bytes)) =>
    match String.fromUTF8? bytes with
    | some text => .ok text
    | none => .error .notText

/-- Writes a file, in place of the one that may be there. -/
def writeFile (name : String) (bytes : ByteArray) (f : Folder) : Except FileError Folder :=
  match access name f with
  | .error e => .error e
  | .ok (some .folder) => .error .isFolder
  | .ok _ => .ok (f.put name (.file bytes))

/-- Gives a file another name, in place of the file that may be there. -/
def rename (old new : String) (f : Folder) : Except FileError Folder :=
  match access old f, access new f with
  | .error e, _ => .error e
  | _, .error e => .error e
  | .ok none, _ => .error .notFound
  | .ok (some _), .ok (some .folder) => .error .isFolder
  | .ok (some entry), .ok _ => .ok ((f.erase old).put new entry)

/-- Removes a file. -/
def removeFile (name : String) (f : Folder) : Except FileError Folder :=
  match access name f with
  | .error e => .error e
  | .ok none => .error .notFound
  | .ok (some .folder) => .error .isFolder
  | .ok (some (.file _)) => .ok (f.erase name)

end Folder

end Messenger.Store
