import Messenger.Address.Form
import Messenger.Address.Path

set_option relaxedAutoImplicit false
set_option autoImplicit false

/-!
# Addresses

The address to which a connection is opened: an origin with a path and a query.

## Main definitions

* `Messenger.Address`: the address.
* `Messenger.Address.render`: its text.
-/

namespace Messenger

/-- An address with a path and a query. -/
structure Address where
  origin : Address.Origin
  /-- The written path, which begins with a slash. -/
  path : List Char
  /-- The written query. -/
  query : List Char
  deriving DecidableEq, Repr, Inhabited

namespace Address

/-- The written form of what is in front of the path. -/
def writeOrigin (o : Origin) : List Char :=
  o.scheme ++ "://".toList ++ (if o.userinfo.isEmpty then [] else o.userinfo ++ ['@']) ++
    (match o.host with
      | some h => h.write
      | none => []) ++
    (match o.port with
      | some p => ':' :: Text.decimal p
      | none => [])

/-- The text of an address. -/
def render (a : Address) : String :=
  String.ofList (writeOrigin a.origin ++ a.path ++ '?' :: a.query ++
    (match a.origin.fragment with
      | some f => '#' :: f
      | none => []))

end Address

end Messenger
