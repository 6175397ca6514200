import Messenger.Store.Files
import Messenger.Store.Tree
import Messenger.Terminal.Basic

set_option relaxedAutoImplicit false
set_option autoImplicit false

/-!
# A sitting at the terminal

All that a sitting does, from the arguments of the command to its end, in a tree of folders: the
settings are read from a file in it, and the storage is one of its folders.

## Main definitions

* `Messenger.Terminal.openStore`: the storage of settings, in a tree.
* `Messenger.Terminal.sit`: a whole sitting.
-/

namespace Messenger.Terminal

/-- Where in a tree settings keep their storage, and the storage there. The folder is created if it
is missing; so may be folders on the way to it, even if that fails in the end. -/
def openStore (settings : Settings.Storage) (tree : Store.Tree) :
    Except Error (Store.Path × Store.Files) × Store.Tree :=
  match tree.makeFolder settings.dir with
  | (some path, tree) => (.ok (path, ⟨tree.children path⟩), tree)
  | (none, tree) =>
    (.error (.storage ("create " ++ settings.dir ++ " failed: not a folder")), tree)

/-- A sitting with these arguments, variables and input, whose beginning and whose lines have the
given moments by their numbers. Gives why it failed, if it did, and the tree afterwards. -/
def sit (args : List String) (values : Variables) (input : ByteArray)
    (momentOf : Nat → Session.Moment) (tree : Store.Tree) : Except Error Unit × Store.Tree :=
  let content := (tree.readFile (settingsPath args)).mapError Store.FileError.message
  match Plan.make content values with
  | .error e => (.error e, tree)
  | .ok plan =>
    match openStore plan.settings.storage tree with
    | (.error e, tree) => (.error e, tree)
    | (.ok (path, files), tree) =>
      let lines := (linesOf input).zipIdx.map fun (text, n) => (momentOf (n + 1), text)
      let t := read lines (start (momentOf 0) plan values files)
      (.ok (), tree.replaceChildren path (t.close (momentOf (lines.length + 1))).folder)

end Messenger.Terminal
