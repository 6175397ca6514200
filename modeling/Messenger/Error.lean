set_option relaxedAutoImplicit false
set_option autoImplicit false

/-!
# Errors of the messenger

Every operation of the library that can fail, fails with an `Error`: what went wrong, by cause,
with a reason in words. A cause has a stable code for logs and a display text.

## Main definitions

* `Messenger.Error`: the causes.
* `Messenger.ErrorCode`, `Messenger.Error.code`: the stable code of a cause.
* `Messenger.Error.message`: the text shown to a person.
-/

namespace Messenger

/-- The stable codes of errors. -/
inductive ErrorCode
  /-- Invalid input or a malformed configuration. -/
  | badRequest
  /-- An incoming frame is no envelope. -/
  | decode
  /-- The version of a configuration is not supported. -/
  | unsupportedVersion
  /-- No credential could be had. -/
  | credential
  /-- A connection was refused, failed or timed out. -/
  | transport
  /-- The durable storage could not be read or written. -/
  | storage
  /-- The client was torn down while the request was under way. -/
  | disconnected
  /-- Anything else. -/
  | internal
  deriving DecidableEq, Repr, Inhabited

/-- The code as it stands in logs. -/
def ErrorCode.name : ErrorCode → String
  | .badRequest => "BAD_REQUEST"
  | .decode => "DECODE"
  | .unsupportedVersion => "UNSUPPORTED_VERSION"
  | .credential => "CREDENTIAL"
  | .transport => "TRANSPORT"
  | .storage => "STORAGE"
  | .disconnected => "DISCONNECTED"
  | .internal => "INTERNAL"

/-- What went wrong. Two causes need no reason: there is nothing more to say. -/
inductive Error
  | badRequest (reason : String)
  | decode (reason : String)
  | unsupportedVersion
  | credential (reason : String)
  | transport (reason : String)
  | storage (reason : String)
  | disconnected
  | internal (reason : String)
  deriving DecidableEq, Repr, Inhabited

namespace Error

/-- The code of an error is that of its cause. -/
def code : Error → ErrorCode
  | badRequest _ => .badRequest
  | decode _ => .decode
  | unsupportedVersion => .unsupportedVersion
  | credential _ => .credential
  | transport _ => .transport
  | storage _ => .storage
  | disconnected => .disconnected
  | internal _ => .internal

/-- The text shown to a person: the cause, then the reason. -/
def message : Error → String
  | badRequest reason => "bad request: " ++ reason
  | decode reason => "decode failed: " ++ reason
  | unsupportedVersion => "unsupported version"
  | credential reason => "credential unavailable: " ++ reason
  | transport reason => "transport: " ++ reason
  | storage reason => "storage: " ++ reason
  | disconnected => "disconnected"
  | internal reason => "internal: " ++ reason

end Error

end Messenger
