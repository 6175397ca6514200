import Messenger.Credential
import Messenger.Session.Step
import Messenger.Settings.Reader
import Messenger.Terminal.Line

set_option relaxedAutoImplicit false
set_option autoImplicit false

/-!
# The terminal

A user at a terminal has one session, and types lines. As long as no connection opens, every attempt
fails at once, and whatever the user sends waits in storage for a later sitting.

## Main definitions

* `Messenger.Terminal.Plan`: what has to be known before there is a session.
* `Messenger.Terminal`: a session with the room that messages go to.
* `Messenger.Terminal.start`, `Messenger.Terminal.hear`, `Messenger.Terminal.close`: the beginning
  of a sitting, a line, and the end.

## Design

An event that does not fit the phase of a session does nothing. So what becomes of an attempt can be
reported after every command, whether or not the command has begun one.
-/

namespace Messenger

namespace Terminal

/-- The values of the variables of the environment. -/
abbrev Variables := String → Option ByteArray

/-- The variable with the credential. -/
def tokenVariable : String := "CHATWIRE_TOKEN"

/-- The variable with the room to begin in. -/
def roomVariable : String := "CHATWIRE_ROOM"

/-- The file with the settings, for the arguments of the command. -/
def settingsPath (args : List String) : String :=
  args.headD "chatwire.yaml"

/-- Where the credentials of a terminal come from. -/
def provider : Credential.Provider := .environment tokenVariable

/-- What has to be known before there is a session. -/
structure Plan where
  settings : Settings
  target : Settings.Target
  /-- The first credential. -/
  credential : String
  deriving Repr, Inhabited

/-- The plan for a file of settings: its bytes, or why there are none. Without valid settings the
variables do not matter. -/
def Plan.make (content : Except String ByteArray) (values : Variables) : Except Error Plan :=
  match Settings.load content with
  | .error e => .error e
  | .ok settings =>
    match provider.ask values with
    | .error e => .error e
    | .ok none => .error (.credential (tokenVariable ++ " is not set"))
    | .ok (some credential) => (settings.target).map fun target => ⟨settings, target, credential⟩

/-- The room to begin in, if the variable holds the number of one. -/
def firstRoom? (values : Variables) : Option Room := do
  let bytes ← values roomVariable
  let text ← String.fromUTF8? bytes
  readRoom? text.toList

end Terminal

/-- A session of a user at a terminal. -/
structure Terminal (σ : Type) where
  session : Session
  store : σ
  /-- What the provider of credentials answers. -/
  answer : Credential.Answer
  /-- The room that messages go to. -/
  room : Option Room
  /-- The user has logged out. -/
  loggedOut : Bool
  deriving Inhabited

namespace Terminal

/-- What a terminal takes from the world outside at a time. There is no link that could take a
frame, and nobody watches or listens. -/
def moment (clock : Nat) (stamp : Timestamp) (freshId : String) : Session.Moment :=
  { clock := clock
    stamp := stamp
    freshId := freshId
    accepts := fun _ => false
    outcome := fun _ => .returned
    pingFirst := true }

/-- Why an attempt fails. -/
def unreachable : Error := .transport "connection refused"

/-- The caller in whose name all commands are given. -/
def user : Nat := 0

variable {σ : Type} [Storage σ]

/-- Lets an event happen to the session. -/
def happen (m : Session.Moment) (event : Session.Event) (t : Terminal σ) : Terminal σ :=
  let turn := Session.step m event t.session t.store
  { t with session := turn.session, store := turn.store }

/-- Brings an attempt to its end, if there is one. -/
def settle (m : Session.Moment) (t : Terminal σ) : Terminal σ :=
  (t.happen m (.acquired t.answer)).happen m (.failed unreachable)

/-- Gives a command, and waits for what follows from it. -/
def command (m : Session.Moment) (c : Session.Command) (t : Terminal σ) : Terminal σ :=
  (t.happen m (.command c)).settle m

/-- Makes the next attempt if it is due. -/
def tick (m : Session.Moment) (t : Terminal σ) : Terminal σ :=
  if t.session.retryAt.any (· ≤ m.clock) then (t.happen m .retryDue).settle m else t

/-- Does what a line asks for. A message without a room to go to is passed over. -/
def hear (m : Session.Moment) (line : Line) (t : Terminal σ) : Terminal σ :=
  match line, t.room with
  | .join room, _ => { t.command m (.join room) with room := some room }
  | .leave, some room => { t.command m (.leave room) with room := none }
  | .say text, some room =>
    t.command m (.send (Session.Turn.envelope m .sendMessage (Request.message room text "text")))
  | .reconnect, _ => t.command m (.reconnect user)
  | .online, _ => t.command m (.wake .online)
  | .logout, _ => { t.command m (.disconnect user) with loggedOut := true }
  | .leave, none | .say _, none | .nothing, _ => t

/-- The beginning of a sitting: the session is restored from storage and connects, and joins the
room to begin in. -/
def start (m : Session.Moment) (plan : Plan) (values : Variables) (store : σ) : Terminal σ :=
  let (session, store) := Session.start m.stamp plan.settings plan.target store
  let t : Terminal σ := ⟨session, store, provider.ask values, none, false⟩
  let t := t.command m (.connect plan.credential user)
  let t : Terminal σ := { t with room := t.session.sharedRoom }
  match firstRoom? values with
  | some room => t.hear m (.join room)
  | none => t

/-- Reads lines, each at its moment, until the user logs out. -/
def read : List (Session.Moment × String) → Terminal σ → Terminal σ
  | [], t => t
  | (m, text) :: rest, t => if t.loggedOut then t else read rest ((t.tick m).hear m (.read text))

/-- What is in storage when a sitting is over. -/
def close (m : Session.Moment) (t : Terminal σ) : σ :=
  (Session.shutDown m t.session t.store).store

end Terminal

end Messenger
