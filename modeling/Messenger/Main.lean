import Messenger.Envelope.Identifier
import Messenger.Store.Files
import Messenger.Terminal.Basic
import Std.Time.DateTime.Timestamp

set_option relaxedAutoImplicit false
set_option autoImplicit false

/-!
# The command

Reads settings, variables and lines, and keeps the files of the storage. There is no network:
every attempt to connect fails, and messages wait in their file.

## Main definitions

* `main`: the command.
-/

namespace Messenger.Command

/-- The present moment. -/
def now : IO Session.Moment := do
  let clock ← IO.monoMsNow
  let nanos := (← Std.Time.Timestamp.now).toNanosecondsSinceUnixEpoch.val.toNat
  let bytes ← IO.getRandomBytes 16
  return Terminal.moment clock (.ofSeconds (nanos / 1000000000) (nanos % 1000000000))
    (String.ofList (Envelope.Identifier.ofBytes (bytes.data.toList.map UInt8.toNat)))

/-- The bytes of the file with the settings, or why there are none. -/
def readSettings (path : String) : IO (Except String ByteArray) := do
  try return .ok (← IO.FS.readBinFile path)
  catch e => return .error (toString e)

/-- The variables of the environment. -/
def readVariables : IO Terminal.Variables := do
  let token ← IO.getEnv Terminal.tokenVariable
  let room ← IO.getEnv Terminal.roomVariable
  return fun name =>
    if name = Terminal.tokenVariable then token.map String.toUTF8
    else if name = Terminal.roomVariable then room.map String.toUTF8
    else none

/-- The path of a file in a folder. -/
def pathIn (dir name : String) : String :=
  if dir = "" then name else dir ++ "/" ++ name

/-- What is at a path. What cannot be read is taken for a folder. -/
def readEntry (path : String) : IO (Option Store.Entry) := do
  try return some (.file (← IO.FS.readBinFile path))
  catch
    | .noFileOrDirectory .. => return none
    | _ => return some .folder

/-- The files of the keys of a storage. The folder is created if it is missing. -/
def readFiles (s : Settings.Storage) : IO (Except Error Store.Files) := do
  try
    if s.dir ≠ "" then IO.FS.createDirAll s.dir
    let mut folder : Store.Folder := .empty
    for key in [s.queueKey, s.roomKey] do
      let name := Store.fileName key
      if let some entry ← readEntry (pathIn s.dir name) then
        folder := folder.put name entry
    return .ok ⟨folder⟩
  catch e => return .error (.storage ("create " ++ s.dir ++ " failed: " ++ toString e))

/-- Writes what has changed in a folder. A file is complete before it takes its name. -/
def saveChanges (dir : String) (old new : Store.Folder) : IO Unit := do
  try
    for (name, entry) in new.entries do
      match entry with
      | .file bytes =>
        if old.get? name ≠ some entry then
          let draft := pathIn dir (name ++ ".tmp")
          IO.FS.writeBinFile draft bytes
          IO.FS.rename draft (pathIn dir name)
      | .folder => pure ()
    for (name, _) in old.entries do
      if (new.get? name).isNone then IO.FS.removeFile (pathIn dir name)
  catch e => IO.eprintln ("storage: " ++ toString e)

/-- The next line of the input, behind what has been read of it. A line that is no text is taken for
the end. -/
partial def readLine (input : IO.FS.Stream) (line : ByteArray) : IO (Option String) := do
  match (← input.read 1).data.toList with
  | [] => return if line.isEmpty then none else String.fromUTF8? line
  | b :: _ =>
    if b = Terminal.lineFeed then return String.fromUTF8? line
    else readLine input (line.push b)

/-- Reads lines until the input ends or the user logs out. -/
partial def loop (dir : String) (input : IO.FS.Stream) (t : Terminal Store.Files) :
    IO (Terminal Store.Files) := do
  if t.loggedOut then return t
  match ← readLine input .empty with
  | none => return t
  | some line =>
    let next := t.read [(← now, line)]
    saveChanges dir t.store.folder next.store.folder
    loop dir input next

/-- Reports why the command fails. -/
def fail (e : Error) : IO UInt32 := do
  IO.eprintln (e.code.name ++ ": " ++ e.message)
  return 1

/-- A sitting according to a plan. -/
def sit (plan : Terminal.Plan) (values : Terminal.Variables) : IO UInt32 := do
  match ← readFiles plan.settings.storage with
  | .error e => fail e
  | .ok files =>
    let dir := plan.settings.storage.dir
    let t := Terminal.start (← now) plan values files
    saveChanges dir files.folder t.store.folder
    let t ← loop dir (← IO.getStdin) t
    saveChanges dir t.store.folder (t.close (← now)).folder
    return 0

end Messenger.Command

/-- Reads the settings from the file that is named, or else from the usual one, and sits down. -/
def main (args : List String) : IO UInt32 := do
  let values ← Messenger.Command.readVariables
  let content ← Messenger.Command.readSettings (Messenger.Terminal.settingsPath args)
  match Messenger.Terminal.Plan.make content values with
  | .error e => Messenger.Command.fail e
  | .ok plan => Messenger.Command.sit plan values
