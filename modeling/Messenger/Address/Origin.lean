import Messenger.Address.Host

set_option relaxedAutoImplicit false
set_option autoImplicit false

/-!
# Origins

The origin of an address says by which scheme, at which host and at which port a server is reached.
It is read from an address whose path and query do not matter, because others will take their place;
a fragment stays.

## Main definitions

* `Messenger.Address.Origin`: what is read.
* `Messenger.Address.Origin.read`: reads it.

## Design

People write addresses in many ways. Blanks and controls around an address and line breaks within
it are dropped; for the schemes of the web a backslash is as good as a slash, and the number of
slashes in front of the host does not matter.
-/

namespace Messenger.Address

/-- What of an address stays when path and query are replaced. -/
structure Origin where
  scheme : List Char
  /-- The part in front of the host, written as in the address; empty if there is none. -/
  userinfo : List Char
  host : Option Host
  /-- The port, if it is not the one that goes without saying. -/
  port : Option Nat
  fragment : Option (List Char)
  deriving DecidableEq, Repr, Inhabited

/-- The schemes that an address can have, as far as they are read in different ways. -/
inductive SchemeClass
  | web
  | file
  | other
  deriving DecidableEq, Repr, Inhabited

/-- The schemes of the web, with the port that goes without saying. -/
def webPorts : List (List Char × Nat) :=
  [("http".toList, 80), ("https".toList, 443), ("ws".toList, 80), ("wss".toList, 443),
    ("ftp".toList, 21)]

/-- The port that goes without saying. -/
def defaultPort? (scheme : List Char) : Option Nat :=
  webPorts.lookup scheme

/-- How the addresses of a scheme are read. -/
def schemeClass (scheme : List Char) : SchemeClass :=
  if (defaultPort? scheme).isSome then .web
  else if scheme = "file".toList then .file
  else .other

namespace Origin

/-- A control or a space. -/
def isPadding (c : Char) : Bool :=
  c.toNat ≤ 32

/-- A character that is dropped within an address. -/
def isBreak (c : Char) : Bool :=
  c = '\t' || c = '\n' || c = '\r'

/-- The address without what is dropped. -/
def clean (s : List Char) : List Char :=
  (((s.dropWhile isPadding).reverse.dropWhile isPadding).reverse).filter (!isBreak ·)

/-- A character of a scheme behind the first. -/
def isSchemeChar (c : Char) : Bool :=
  c.isAlphanum || c = '+' || c = '-' || c = '.'

/-- The scheme in small letters, and what is behind its colon. -/
def readScheme? (s : List Char) : Option (List Char × List Char) :=
  if s.head?.any Char.isAlpha then
    match s.dropWhile isSchemeChar with
    | ':' :: rest => some ((s.takeWhile isSchemeChar).map Char.toLower, rest)
    | _ => none
  else none

/-- A character at which the part with the host ends. -/
def endsAuthority (kind : SchemeClass) (c : Char) : Bool :=
  c = '/' || c = '?' || c = '#' || (kind = .web && c = '\\')

/-- The part in front of the host and the part with the host, which the last `@` parts. -/
def splitUserinfo (s : List Char) : Option (List Char) × List Char :=
  if s.contains '@' then
    let behind := (s.reverse.takeWhile (· ≠ '@')).reverse
    (some (s.take (s.length - behind.length - 1)), behind)
  else (none, s)

/-- The part in front of the host as it is written. The first colon parts name and password, and is
left out if nothing is behind it. -/
def writeUserinfo (s : List Char) : List Char :=
  let name := percentEncode keptInUserinfo (s.takeWhile (· ≠ ':'))
  match (s.dropWhile (· ≠ ':')).drop 1 with
  | [] => name
  | password => name ++ ':' :: percentEncode keptInUserinfo password

/-- The host and what is behind it. A colon between brackets belongs to the host. -/
def splitHost (inBrackets : Bool) : List Char → List Char × List Char
  | [] => ([], [])
  | c :: rest =>
    if c = ':' ∧ inBrackets = false then ([], c :: rest)
    else
      let (host, behind) := splitHost ((inBrackets || c = '[') && c ≠ ']') rest
      (c :: host, behind)

/-- The port behind the host. Nothing is left out for zero. A backslash ends a port under every
scheme, also under those whose hosts it does not end. -/
def readPort (scheme : List Char) (s : List Char) : Except Fault (Option Nat) :=
  let digits := s.takeWhile Char.isDigit
  let port := (Text.readNat? 10 digits).getD 0
  match s.drop digits.length with
  | [] | '\\' :: _ =>
    if 65535 < port then .error .invalidPort
    else if digits.isEmpty ∨ defaultPort? scheme = some port then .ok none
    else .ok (some port)
  | _ => .error .invalidPort

/-- Reads host and port. -/
def readHostAndPort (scheme : List Char) (s : List Char) : Except Fault (Host × Option Nat) :=
  let kind := schemeClass scheme
  let (host, behind) := splitHost false s
  if kind = .web ∧ host.isEmpty then .error .emptyHost
  else
    match if kind = .web then Host.read host else Host.readOpaque host with
    | .error e => .error e
    | .ok h =>
      match behind with
      | [] => .ok (h, none)
      | _ :: port =>
        if host.isEmpty then .error .emptyHost
        else (readPort scheme port).map fun p => (h, p)

/-- The fragment of what is behind the host. -/
def readFragment (s : List Char) : Option (List Char) :=
  match s.dropWhile (· ≠ '#') with
  | [] => none
  | _ :: rest => some (percentEncode keptInFragment rest)

/-- Reads what is behind the slashes in front of the host. -/
def readAuthority (scheme : List Char) (s : List Char) : Except Fault Origin :=
  let kind := schemeClass scheme
  let (userinfo, host) := splitUserinfo (s.takeWhile (!endsAuthority kind ·))
  let behind := s.dropWhile (!endsAuthority kind ·)
  if userinfo = some [] ∧ host.isEmpty ∧ behind ≠ [] then .error .emptyHost
  else
    match readHostAndPort scheme host with
    | .error e => .error e
    | .ok (h, port) =>
      let written := writeUserinfo (userinfo.getD [])
      if h = .name [] ∧ written ≠ [] then .error .emptyHost
      else .ok ⟨scheme, written, some h, port, readFragment behind⟩

/-- Reads the host of a file. -/
def readFile (s : List Char) : Except Fault Origin :=
  let isSlash (c : Char) : Bool := c = '/' || c = '\\'
  let plain : Origin := ⟨"file".toList, [], none, none, readFragment s⟩
  match s with
  | a :: b :: rest =>
    if isSlash a && isSlash b then
      let host := rest.takeWhile fun c => !(isSlash c || c = '?' || c = '#')
      match host with
      | [] => .ok plain
      | [drive, sign] =>
        if drive.isAlpha && (sign = ':' || sign = '|') then .ok plain
        else (Host.read host).map fun h => { plain with host := some h }
      | host => (Host.read host).map fun h => { plain with host := some h }
    else .ok plain
  | _ => .ok plain

/-- Reads the origin of an address. -/
def read (address : String) : Except Fault Origin :=
  match readScheme? (clean address.toList) with
  | none => .error .noScheme
  | some (scheme, rest) =>
    match schemeClass scheme with
    | .web => readAuthority scheme (rest.dropWhile fun c => c = '/' || c = '\\')
    | .file => readFile rest
    | .other =>
      match rest with
      | '/' :: '/' :: rest => readAuthority scheme rest
      | rest => .ok ⟨scheme, [], none, none, readFragment rest⟩

end Origin

end Messenger.Address
