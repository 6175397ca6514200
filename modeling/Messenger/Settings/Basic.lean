import Messenger.Address.Basic
import Messenger.Error
import Messenger.Text.Blank

set_option relaxedAutoImplicit false
set_option autoImplicit false

/-!
# Settings

What a client has to be told: where the server is, how often it is pinged, how long to wait between
two attempts to connect, and where messages are kept. Every section has defaults, and is valid only
within limits.

## Main definitions

* `Messenger.Settings`: all settings, in the sections `Messenger.Settings.Endpoint`,
  `Messenger.Settings.Pulse`, `Messenger.Settings.Retry` and `Messenger.Settings.Storage`.
* `Messenger.Settings.Fault`: what can be wrong with a section.
* `Messenger.Settings.check`: whether the settings are valid.
* `Messenger.Settings.Target`: where connections are opened.
* `Messenger.Settings.Target.addressFor`: the address at which one attempt to connect is made.

## Main results

* `Messenger.Settings.Endpoint.exists_target`: a valid endpoint has a target.
* `Messenger.Settings.queueKey_ne_roomKey`: valid settings keep things under different keys.
-/

namespace Messenger

namespace Settings

/-- What is wrong with a section. -/
inductive Fault
  | origin (fault : Address.Fault)
  | unsupported (scheme : String)
  | path
  | tokenParam
  | interval
  | timeout
  | timeoutOrder
  | baseDelay
  | maxDelay
  | connectTimeout
  | emptyKey
  | equalKeys
  deriving DecidableEq, Repr, Inhabited

/-- The fault in words. -/
def Fault.message : Fault → String
  | origin fault => "endpoint.origin invalid: " ++ fault.message
  | unsupported scheme => "endpoint.origin scheme not supported: " ++ scheme
  | path => "endpoint.path must start with '/'"
  | tokenParam => "endpoint.token_param must not be empty"
  | interval => "heartbeat.interval_ms must be between 1000 and 300000"
  | timeout => "heartbeat.timeout_ms must be between 100 and 60000"
  | timeoutOrder => "heartbeat.timeout_ms must be less than interval_ms"
  | baseDelay => "reconnect.base_delay_ms must be between 10 and 60000"
  | maxDelay => "reconnect.max_delay_ms must be between base_delay_ms and 600000"
  | connectTimeout => "reconnect.connect_timeout_ms must be between 100 and 120000"
  | emptyKey => "storage keys must not be empty"
  | equalKeys => "storage.offline_queue_key and storage.active_room_key must differ"

/-- A fault is invalid input. -/
def Fault.error (fault : Fault) : Error :=
  .badRequest fault.message

/-- Where the server is. -/
structure Endpoint where
  /-- By which scheme, at which host and at which port. -/
  origin : String := "http://127.0.0.1:8080"
  path : String := "/messenger/ws"
  /-- The name under which the query carries the credential. -/
  tokenParam : String := "token"
  deriving DecidableEq, Repr, Inhabited

/-- How an open connection is watched, in milliseconds. -/
structure Pulse where
  /-- The time between two pings. -/
  interval : Nat := 30000
  /-- How long an answer to a ping may take. -/
  timeout : Nat := 10000
  deriving DecidableEq, Repr, Inhabited

/-- How long to wait, in milliseconds. -/
structure Retry where
  /-- Before the first new attempt to connect. -/
  baseDelay : Nat := 1000
  /-- Before any new attempt. -/
  maxDelay : Nat := 30000
  /-- For the outcome of an attempt. -/
  connectTimeout : Nat := 10000
  deriving DecidableEq, Repr, Inhabited

/-- Where messages are kept. -/
structure Storage where
  dir : String := ".chatwire"
  /-- The key of the messages that are not sent yet. -/
  queueKey : String := "chatwire.offline_queue"
  /-- The key of the room the user is in. -/
  roomKey : String := "chatwire.active_room"
  deriving DecidableEq, Repr, Inhabited

/-! ### The endpoint -/

/-- The scheme by which a connection is opened, for the scheme of an origin. -/
def socketScheme? (scheme : List Char) : Option (List Char) :=
  if scheme = "http".toList ∨ scheme = "ws".toList then some "ws".toList
  else if scheme = "https".toList ∨ scheme = "wss".toList then some "wss".toList
  else none

/-- Where connections are opened: an endpoint whose origin has been understood. -/
structure Target where
  origin : Address.Origin
  path : String
  tokenParam : String
  deriving DecidableEq, Repr, Inhabited

/-- The target of an endpoint. -/
def Endpoint.target (e : Endpoint) : Except Fault Target :=
  match Address.Origin.read e.origin with
  | .error fault => .error (.origin fault)
  | .ok origin =>
    match socketScheme? origin.scheme with
    | none => .error (.unsupported (String.ofList origin.scheme))
    | some scheme => .ok ⟨{ origin with scheme := scheme }, e.path, e.tokenParam⟩

/-- The address at which one attempt to connect is made. The credential is the only pair of its
query. -/
def Target.addressFor (t : Target) (credential : String) : Address :=
  ⟨t.origin, Address.writePath t.path, Address.Form.encodePair t.tokenParam credential⟩

/-- Whether the endpoint is valid. -/
def Endpoint.check (e : Endpoint) : Except Fault Unit :=
  match e.target with
  | .error fault => .error fault
  | .ok _ =>
    if e.path.toList.head? ≠ some '/' then .error .path
    else if Text.trim e.tokenParam.toList = [] then .error .tokenParam
    else .ok ()

/-- A valid endpoint has a target, and so an address for every credential. -/
theorem Endpoint.exists_target {e : Endpoint} (h : e.check = .ok ()) :
    ∃ target, e.target = .ok target := by
  cases ht : e.target with
  | error fault => simp [Endpoint.check, ht] at h
  | ok target => exact ⟨target, rfl⟩

/-! ### The other sections -/

/-- Whether the times of the pings are valid. -/
def Pulse.check (p : Pulse) : Except Fault Unit :=
  if p.interval < 1000 ∨ 300000 < p.interval then .error .interval
  else if p.timeout < 100 ∨ 60000 < p.timeout then .error .timeout
  else if p.interval ≤ p.timeout then .error .timeoutOrder
  else .ok ()

/-- Whether the times to wait are valid. -/
def Retry.check (r : Retry) : Except Fault Unit :=
  if r.baseDelay < 10 ∨ 60000 < r.baseDelay then .error .baseDelay
  else if r.maxDelay < r.baseDelay ∨ 600000 < r.maxDelay then .error .maxDelay
  else if r.connectTimeout < 100 ∨ 120000 < r.connectTimeout then .error .connectTimeout
  else .ok ()

/-- Whether the keys are valid. -/
def Storage.check (s : Storage) : Except Fault Unit :=
  if s.queueKey = "" ∨ s.roomKey = "" then .error .emptyKey
  else if s.queueKey = s.roomKey then .error .equalKeys
  else .ok ()

end Settings

/-- All settings of a client. -/
structure Settings where
  version : Nat := 1
  endpoint : Settings.Endpoint := {}
  pulse : Settings.Pulse := {}
  retry : Settings.Retry := {}
  storage : Settings.Storage := {}
  deriving DecidableEq, Repr, Inhabited

/-- Whether the settings are valid: the version first, then section by section. -/
def Settings.check (s : Settings) : Except Error Unit := do
  if s.version ≠ 1 then throw .unsupportedVersion
  (s.endpoint.check).mapError Fault.error
  (s.pulse.check).mapError Fault.error
  (s.retry.check).mapError Fault.error
  (s.storage.check).mapError Fault.error

/-- The target of valid settings. -/
def Settings.target (s : Settings) : Except Error Settings.Target :=
  match s.check with
  | .error e => .error e
  | .ok _ => (s.endpoint.target).mapError Fault.error

/-- Checks in a row succeed only if they all do. -/
theorem Settings.ok_of_bind {first others : Except Error Unit}
    (h : (do first; others) = .ok ()) : first = .ok () ∧ others = .ok () := by
  cases first with
  | error e => cases h
  | ok u => exact ⟨rfl, h⟩

/-- Valid settings are valid in every section. -/
theorem Settings.sections_of_check {s : Settings} (h : s.check = .ok ()) :
    s.endpoint.check = .ok () ∧ s.pulse.check = .ok () ∧ s.retry.check = .ok () ∧
      s.storage.check = .ok () := by
  have hok : ∀ {checked : Except Fault Unit}, checked.mapError Fault.error = .ok () →
      checked = .ok () := by
    intro checked hchecked
    cases checked with
    | error fault => cases hchecked
    | ok u => rfl
  unfold Settings.check at h
  split at h
  · cases h
  · dsimp only at h
    obtain ⟨hendpoint, h⟩ := ok_of_bind h
    obtain ⟨hpulse, h⟩ := ok_of_bind h
    obtain ⟨hretry, hstorage⟩ := ok_of_bind h
    exact ⟨hok hendpoint, hok hpulse, hok hretry, hok hstorage⟩

/-- Valid settings have the target of their endpoint. -/
theorem Settings.exists_target {s : Settings} (h : s.check = .ok ()) :
    ∃ target, s.target = .ok target ∧ s.endpoint.target = .ok target := by
  obtain ⟨target, htarget⟩ := Endpoint.exists_target (sections_of_check h).1
  refine ⟨target, ?_, htarget⟩
  rw [Settings.target, h, htarget]
  rfl

/-- Settings that have a target are valid in every section. -/
theorem Settings.sections_of_target {s : Settings} {target : Settings.Target}
    (h : s.target = .ok target) :
    s.endpoint.check = .ok () ∧ s.pulse.check = .ok () ∧ s.retry.check = .ok () ∧
      s.storage.check = .ok () := by
  unfold Settings.target at h
  split at h
  · cases h
  · next hcheck => exact sections_of_check hcheck

/-- **The queue and the room do not share a key.** Settings that have a target keep them under
different ones. -/
theorem Settings.queueKey_ne_roomKey {s : Settings} {target : Settings.Target}
    (h : s.target = .ok target) : s.storage.queueKey ≠ s.storage.roomKey := by
  obtain ⟨-, -, -, hstorage⟩ := sections_of_target h
  intro heq
  unfold Settings.Storage.check at hstorage
  rw [if_pos heq] at hstorage
  split at hstorage <;> cases hstorage

/-- Settings that have a target wait for an answer to a ping for less than an interval. -/
theorem Settings.timeout_lt_interval {s : Settings} {target : Settings.Target}
    (h : s.target = .ok target) : s.pulse.timeout < s.pulse.interval := by
  obtain ⟨-, hpulse, -⟩ := sections_of_target h
  unfold Settings.Pulse.check at hpulse
  split at hpulse
  · cases hpulse
  · split at hpulse
    · cases hpulse
    · split at hpulse
      · cases hpulse
      · next horder => exact Nat.lt_of_not_le horder

end Messenger
