import Messenger.Store.Folder
import Messenger.Text.Ranges

set_option relaxedAutoImplicit false
set_option autoImplicit false

/-!
# Trees of folders

Files and folders in folders, to any depth, as seen from one of them, the root. This is as much of
a file system as is needed to find a file, and to find or create the folder in which a storage keeps
its files.

## Main definitions

* `Messenger.Store.Tree`: the files and folders below a root, by their paths.
* `Messenger.Store.Tree.readFile`: the bytes of a file.
* `Messenger.Store.Tree.makeFolder`: creates a folder and those it lies in.
* `Messenger.Store.Tree.children`, `Messenger.Store.Tree.replaceChildren`: the entries of one
  folder.
-/

namespace Messenger.Store

/-- The names on the way from the root. -/
abbrev Path := List String

namespace Path

/-- The steps that a text describes, with slashes between them. -/
def steps (text : String) : List String :=
  (Text.splitAtEvery '/' text.toList).map String.ofList

/-- Where a step leads from a folder: nowhere, to the folder in which it lies, or to one of its
entries. -/
def step (here : Path) (name : String) : Path :=
  if name = "" ∨ name = Folder.itself then here
  else if name = Folder.above then here.dropLast
  else here ++ [name]

/-- The path that a text describes. -/
def ofText (text : String) : Path :=
  (steps text).foldl step []

end Path

/-- Files and folders by their paths. The root itself is not among them. -/
structure Tree where
  entries : List (Path × Entry)
  deriving Inhabited

namespace Tree

/-- An empty root. -/
def empty : Tree := ⟨[]⟩

/-- What is at a path. -/
def get? (path : Path) (t : Tree) : Option Entry :=
  match path with
  | [] => some .folder
  | path => t.entries.lookup path

/-- Puts an entry at a path. -/
def put (path : Path) (entry : Entry) (t : Tree) : Tree :=
  ⟨t.entries.filter (fun e => e.1 != path) ++ [(path, entry)]⟩

/-- What is at the end of a way from a folder. -/
def follow (here : Path) : List String → Tree → Option Entry
  | [], t => t.get? here
  | name :: names, t =>
    match t.get? here with
    | some .folder => follow (here.step name) names t
    | _ => none

/-- The bytes of a file, or why there are none. -/
def readFile (path : String) (t : Tree) : Except FileError ByteArray :=
  match t.follow [] (Path.steps path) with
  | none => .error .notFound
  | some .folder => .error .isFolder
  | some (.file bytes) => .ok bytes

/-- A name that a folder can have. -/
def isName (name : String) : Bool :=
  name.utf8ByteSize ≤ Folder.maxNameLength

/-- Creates the folders on a way from a folder, as far as they are missing. Gives where the way
ends; it does not if a file is in the way or a name is none that a folder can have. -/
def makeFolders (here : Path) : List String → Tree → Option Path × Tree
  | [], t => (some here, t)
  | name :: names, t =>
    let next := here.step name
    match t.get? next with
    | some .folder => makeFolders next names t
    | some (.file _) => (none, t)
    | none => if isName name then makeFolders next names (t.put next .folder) else (none, t)

/-- How many bytes a path can have. -/
def maxPathLength : Nat := 4095

/-- The steps of a path without those at its end that lead nowhere, and whether the last of these
is the dot by which a folder knows itself. -/
def splitDot (names : List String) : List String × Bool :=
  let isIdle (name : String) : Bool := name = "" || name = Folder.itself
  let backwards := names.reverse
  ((backwards.dropWhile isIdle).reverse, (backwards.takeWhile isIdle).contains Folder.itself)

/-- Creates a folder and those it lies in, as far as they are missing. A text with a null is no
path, and neither is one that is too long. A folder that is meant by a dot behind its name has to be
there: then only those it lies in are created. -/
def makeFolder (path : String) (t : Tree) : Option Path × Tree :=
  if path.toList.contains (Char.ofNat 0) || maxPathLength < path.utf8ByteSize then (none, t)
  else
    let (names, hasDot) := splitDot (Path.steps path)
    let isThere : Bool := match t.follow [] names with
      | some .folder => true
      | _ => false
    if hasDot && !isThere && names.getLast? ≠ some Folder.above then
      (none, (makeFolders [] names.dropLast t).2)
    else makeFolders [] names t

/-- The name of a path within a folder, if it lies directly in it. -/
def childName? (folder path : Path) : Option String :=
  match path.drop folder.length with
  | [name] => if path.take folder.length = folder then some name else none
  | _ => none

/-- The entries of a folder. -/
def children (folder : Path) (t : Tree) : Folder :=
  ⟨t.entries.filterMap fun e => (childName? folder e.1).map (·, e.2)⟩

/-- The tree with other entries in a folder. -/
def replaceChildren (folder : Path) (new : Folder) (t : Tree) : Tree :=
  ⟨t.entries.filter (fun e => (childName? folder e.1).isNone) ++
    new.entries.map fun e => (folder ++ [e.1], e.2)⟩

end Tree

end Messenger.Store
