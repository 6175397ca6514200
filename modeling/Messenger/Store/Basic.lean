import Messenger.Error

set_option relaxedAutoImplicit false
set_option autoImplicit false

/-!
# Durable storage

What has to outlive the program is kept as texts under keys. Storage is a state with three
operations, each of which can fail and may change the state even then.

## Main definitions

* `Messenger.Storage`: the operations on a storage.
-/

namespace Messenger

/-- Texts under keys. -/
class Storage (σ : Type) where
  /-- The text under a key, if there is one. -/
  read (key : String) (store : σ) : Except Error (Option String) × σ
  /-- Puts a text under a key. -/
  write (key value : String) (store : σ) : Except Error Unit × σ
  /-- Leaves nothing under a key. -/
  remove (key : String) (store : σ) : Except Error Unit × σ

end Messenger
