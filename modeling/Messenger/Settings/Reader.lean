import Messenger.Settings.Basic
import Messenger.Yaml.Decode

set_option relaxedAutoImplicit false
set_option autoImplicit false

/-!
# Reading settings

Settings are read from a text. A section or a field that is left out has its default; only the
version is required. No field may be unknown, and none may come twice.

## Main definitions

* `Messenger.Settings.decoder`: the shape of settings.
* `Messenger.Settings.parse`: the settings in a text, if they are valid.
* `Messenger.Settings.load`: the settings in a file, if they are valid.
-/

namespace Messenger.Settings

open Yaml (Decoder field record number text)

/-- A field with a word of 64 bits. -/
def word {α : Type} (name : String) (put : Nat → α → α) : Yaml.Field α :=
  field name (number Text.limit64 "u64") put

/-- A field with a text. -/
def string {α : Type} (name : String) (put : String → α → α) : Yaml.Field α :=
  field name (text "a string") put

/-- The section of the endpoint. -/
def Endpoint.decoder : Decoder Endpoint :=
  record "struct EndpointSection"
    [string "origin" fun s e => { e with origin := s },
      string "path" fun s e => { e with path := s },
      string "token_param" fun s e => { e with tokenParam := s }] [] {}

/-- The section of the heartbeat. -/
def Pulse.decoder : Decoder Pulse :=
  record "struct HeartbeatSection"
    [word "interval_ms" fun n p => { p with interval := n },
      word "timeout_ms" fun n p => { p with timeout := n }] [] {}

/-- The section of the delays. -/
def Retry.decoder : Decoder Retry :=
  record "struct ReconnectSection"
    [word "base_delay_ms" fun n r => { r with baseDelay := n },
      word "max_delay_ms" fun n r => { r with maxDelay := n },
      word "connect_timeout_ms" fun n r => { r with connectTimeout := n }] [] {}

/-- The section of the storage. -/
def Storage.decoder : Decoder Storage :=
  record "struct StorageSection"
    [field "dir" (text "path string") fun s t => { t with dir := s },
      string "offline_queue_key" fun s t => { t with queueKey := s },
      string "active_room_key" fun s t => { t with roomKey := s }] [] {}

/-- The shape of settings. -/
def decoder : Decoder Settings :=
  record "struct ClientConfig"
    [field "version" (number Text.limit32 "u32") fun n s => { s with version := n },
      field "endpoint" Endpoint.decoder fun e s => { s with endpoint := e },
      field "heartbeat" Pulse.decoder fun p s => { s with pulse := p },
      field "reconnect" Retry.decoder fun r s => { s with retry := r },
      field "storage" Storage.decoder fun t s => { s with storage := t }] ["version"] {}

/-- The settings in a text, if they are valid. -/
def parse (source : String) : Except Error Settings :=
  match Yaml.decode decoder source with
  | .error fault => .error (.badRequest ("invalid yaml: " ++ fault.message))
  | .ok s => (s.check).map fun _ => s

/-- The settings in a file, if they are valid: the bytes of the file, or why there are none. -/
def load (content : Except String ByteArray) : Except Error Settings :=
  let refuse (reason : String) : Except Error Settings :=
    .error (.internal ("read config failed: " ++ reason))
  match content with
  | .error reason => refuse reason
  | .ok bytes =>
    match String.fromUTF8? bytes with
    | none => refuse "stream did not contain valid UTF-8"
    | some source => parse source

end Messenger.Settings
