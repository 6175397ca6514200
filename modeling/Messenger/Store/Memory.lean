import Messenger.Store.Basic
import Messenger.Store.Table

set_option relaxedAutoImplicit false
set_option autoImplicit false

/-!
# Storage in memory

A table of texts, which never fails. Around any storage, switches can make each kind of operation
fail, to see what becomes of the rest of the library then.

## Main definitions

* `Messenger.Store.Memory`: the storage in memory.
* `Messenger.Store.Faulty`: a storage with switches.
-/

namespace Messenger.Store

/-- Texts in memory. -/
abbrev Memory := Table String

instance : Storage Memory where
  read key m := (.ok (m.get? key), m)
  write key value m := (.ok (), m.put key value)
  remove key m := (.ok (), m.erase key)

/-- A storage in which each kind of operation can be made to fail. -/
structure Faulty (σ : Type) where
  inner : σ
  failsRead : Bool
  failsWrite : Bool
  failsRemove : Bool
  deriving Repr, Inhabited

namespace Faulty

/-- Why an operation fails on purpose. -/
def injected (operation : String) : Error :=
  .storage ("injected " ++ operation ++ " failure")

instance {σ : Type} [Storage σ] : Storage (Faulty σ) where
  read key s :=
    if s.failsRead then (.error (injected "get"), s)
    else
      let (r, inner) := Storage.read key s.inner
      (r, { s with inner := inner })
  write key value s :=
    if s.failsWrite then (.error (injected "set"), s)
    else
      let (r, inner) := Storage.write key value s.inner
      (r, { s with inner := inner })
  remove key s :=
    if s.failsRemove then (.error (injected "remove"), s)
    else
      let (r, inner) := Storage.remove key s.inner
      (r, { s with inner := inner })

end Faulty

end Messenger.Store
