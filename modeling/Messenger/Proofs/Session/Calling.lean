import Messenger.Proofs.Address.Parts
import Messenger.Proofs.Session.Credentials

set_option relaxedAutoImplicit false
set_option autoImplicit false

/-!
# What a server is called by

The credential of an attempt goes into the query of an address that is made of the origin and the
path of the settings. Whatever characters these texts have, the credential stays where it belongs:
the server, the port and the protection of the connection are those of the origin, and the query
holds the credential and nothing else. An endpoint that is valid has such an address for every
credential, so that an attempt that has its credential always calls.

## Main definitions

* `Messenger.Settings.Endpoint.address`: the address of an endpoint for a credential.
* `Messenger.Settings.Endpoint.Confines`: an address is at the origin of an endpoint, and carries a
  credential in its query and nowhere else.
* `Messenger.Session.Record.Equips`: an event gives an attempt its credential.

## Main results

* `Messenger.Settings.Endpoint.confines_address`: the address of a valid endpoint is such an
  address.
* `Messenger.Session.credential_confined`: so is every address that is called in a run, and an
  attempt that has been given its credential calls at once.
-/

namespace Messenger

namespace Settings

/-! ### Addresses of endpoints -/

/-- The scheme by which a connection is opened is protected if that of the origin is, and goes
without saying at the same port.

**Proof sketch.** By the schemes that are supported, of which each has its counterpart. -/
lemma of_socketScheme? {scheme socket : List Char} (h : socketScheme? scheme = some socket) :
    Address.schemeClass scheme = .web ∧
      Address.defaultPort? socket = Address.defaultPort? scheme ∧
      (Address.defaultPort? scheme).isSome ∧
      socket = if scheme = "https".toList ∨ scheme = "wss".toList then "wss".toList
        else "ws".toList := by
  unfold socketScheme? at h
  split at h
  · next hplain =>
    cases h
    rcases hplain with rfl | rfl <;> decide
  · split at h
    · next hsecure =>
      cases h
      rcases hsecure with rfl | rfl <;> decide
    · cases h

namespace Endpoint

/-- The address at which an attempt with a credential is made, if the endpoint is valid. -/
def address (e : Endpoint) (credential : String) : Except Fault Address :=
  e.target.map (·.addressFor credential)

/-- An address is at an origin that has been read from an endpoint, by the scheme for it, and has a
credential in its query and nowhere else. -/
structure Confines (e : Endpoint) (credential : String) (origin : Address.Origin)
    (address : Address) : Prop where
  scheme : address.origin.scheme =
    if origin.scheme = "https".toList ∨ origin.scheme = "wss".toList then "wss".toList
    else "ws".toList
  host : ∃ host, origin.host = some host ∧ address.origin.host = some host
  port : ∃ port, origin.effectivePort? = some port ∧ address.origin.effectivePort? = some port
  /-- The query holds one pair. -/
  query : Address.Form.pairs? address.query = some [(e.tokenParam, credential)]
  /-- The parts of the address are found in its text. -/
  parts : Address.Parts.of address.render.toList =
    ⟨address.origin.scheme, Address.authority origin, Address.writePath e.path, some address.query,
      origin.fragment⟩

/-- **An address stays at its origin.** The address of an endpoint with a target is at the host and
the port of the origin, protected if that is, and its query holds the credential and nothing else.

**Proof sketch.** An endpoint has a target only if its origin could be read and its scheme is
supported. The scheme by which a connection is opened has the same default port
(`of_socketScheme?`), the query is one written pair (`Address.Form.pairs?_encodePair`), and the
parts are found in the text as they were put together (`Address.Plain.parts_render`). -/
theorem confines_address {e : Endpoint} {target : Target} (h : e.target = .ok target)
    (credential : String) :
    ∃ origin, Address.Origin.read e.origin = .ok origin ∧
      e.Confines credential origin (target.addressFor credential) := by
  unfold Endpoint.target at h
  split at h
  · cases h
  · next origin hread =>
    split at h
    · cases h
    · next scheme hscheme =>
      cases h
      obtain ⟨hweb, hport, hsome, heq⟩ := of_socketScheme? hscheme
      obtain ⟨-, host, hhost, -⟩ := Address.Origin.of_read hread hweb
      have hsigns : Address.Whole scheme ∧ ':' ∉ scheme := by
        rw [heq]
        split <;> simp [Address.Whole] <;> decide
      refine ⟨origin, hread, heq, ⟨host, hhost, hhost⟩, ?_, ?_, ?_⟩
      · obtain ⟨port, hdefault⟩ := Option.isSome_iff_exists.1 hsome
        refine ⟨origin.port.getD port, ?_, ?_⟩
        · rw [Address.Origin.effectivePort?, hdefault]
          cases origin.port <;> rfl
        · have hsame : Address.defaultPort? scheme = some port := hport.trans hdefault
          simp only [Target.addressFor, Address.Origin.effectivePort?, hsame]
          cases origin.port <;> rfl
      · exact Address.Form.pairs?_encodePair e.tokenParam credential
      · exact (Address.plain_of_read hread hweb hsigns.1 hsigns.2 e.path e.tokenParam
          credential).parts_render

end Endpoint

end Settings

namespace Session

/-! ### Attempts that have a credential -/

namespace Move

variable {m : Moment} {s : Session} {r : Report}

/-- An attempt that a caller begins with a credential calls at once.

**Proof sketch.** Of the things that can be done by this command only one begins an attempt, and
that calls at once. -/
lemma of_connect {credential : String} {caller : Nat}
    (h : Move m s (.command (.connect credential caller)) r) (hnone : s.attempt = none)
    (hsome : r.connection.attempt.isSome) :
    r.said.dialed = [s.target.addressFor credential] ∧
      ∃ deadline, r.connection.attempt = some (.dialing credential deadline) := by
  have hbefore : ¬ s.connection.attempt.isSome := by simp [connection, hnone]
  cases h with
  | passes h => exact h.elim
  | grants asker granted => exact absurd hsome hbefore
  | joins credential caller attempt => simp [hnone] at attempt
  | calls credential caller deadline attempt other => exact ⟨rfl, deadline, rfl⟩
  | resumes h due => exact h.elim
  | fails e failure => cases failure
  | loses link broken => cases broken.1

/-- An attempt to which the answer of the provider leaves a credential calls at once.

**Proof sketch.** Of the things that can be done by an answer only one leaves the attempt with a
credential. -/
lemma of_answer {answer : Credential.Answer} {other : Option String} {credential : String}
    (h : Move m s (.acquired answer) r) (hasking : s.attempt = some (.asking other))
    (hchoice : choose answer other = .ok credential) :
    r.said.dialed = [s.target.addressFor credential] ∧
      ∃ deadline, r.connection.attempt = some (.dialing credential deadline) := by
  cases h with
  | passes h => exact absurd hasking (h other)
  | grants asker granted => cases asker
  | resumes h due => exact h.elim
  | dials answer other' credential' deadline attempt choice =>
    cases attempt.symm.trans hasking
    cases choice.symm.trans hchoice
    exact ⟨rfl, deadline, rfl⟩
  | fails e failure => simp [failure?, hasking, hchoice] at failure
  | loses link broken => exact broken.elim

end Move

variable {σ : Type} [Storage σ]

/-- An event gives an attempt its credential: a caller begins the attempt with it, or it is what the
answer of the provider leaves to go on with. -/
inductive Record.Equips (credential : String) (r : Record σ) : Prop
  | caller (caller : Nat) (event : r.event = .command (.connect credential caller))
      (starts : r.Starts)
  | provider (answer : Credential.Answer) (other : Option String)
      (event : r.event = .acquired answer)
      (asking : r.session.attempt = some (.asking other))
      (choice : choose answer other = .ok credential)

namespace Record

/-- An attempt that is given its credential calls at once. -/
lemma Equips.dials {credential : String} {r : Record σ} (h : r.Equips credential)
    (hmove : Move r.moment r.session r.event r.turn.report) :
    r.dialed = [r.session.target.addressFor credential] ∧
      ∃ deadline, r.turn.session.attempt = some (.dialing credential deadline) := by
  cases h with
  | caller caller event starts =>
    rw [event] at hmove
    exact hmove.of_connect starts.1 starts.2
  | provider answer other event asking choice =>
    rw [event] at hmove
    exact hmove.of_answer asking choice

/-- Nobody is called without a credential. -/
lemma exists_equips {r : Record σ} (hmove : Move r.moment r.session r.event r.turn.report)
    {address : Address} (h : address ∈ r.dialed) : ∃ credential, r.Equips credential := by
  obtain ⟨credential, -, ⟨caller, hevent, hnone, hsome⟩ |
    ⟨answer, other, hevent, hasking, hchoice⟩⟩ := hmove.of_dialed h
  · exact ⟨credential, .caller caller hevent ⟨hnone, hsome⟩⟩
  · exact ⟨credential, .provider answer other hevent hasking hchoice⟩

end Record

/-- **A credential stays where it belongs.** For every endpoint that is valid and every credential
there is an address. It is at the host and the port of the origin, protected if the origin is, and
its query, which is the query that is found in its text, holds the credential under its name and no
other pair, whatever characters credential, name and path have and whatever else the origin had. So
settings that are valid have a target, and in every run of a session with it an attempt that is
given its credential calls the server at that address, and nobody else is called.

**Proof sketch.** A valid endpoint has a target (`Settings.Endpoint.exists_target`), and its
addresses are confined (`Settings.Endpoint.confines_address`). In a run the target stays the same,
an attempt that is given its credential calls at once (`Record.Equips.dials`), and whoever is called
is called for such an attempt (`Record.exists_equips`). -/
theorem credential_confined :
    (∀ (e : Settings.Endpoint) (credential : String), e.check = .ok () →
      ∃ origin address, Address.Origin.read e.origin = .ok origin ∧
        e.address credential = .ok address ∧ e.Confines credential origin address) ∧
      ∀ settings : Settings, settings.check = .ok () →
        ∃ target, settings.target = .ok target ∧
          ∀ (began : Timestamp) (stored store : σ) (s : Session) (events : List (Moment × Event)),
            start began settings target stored = (s, store) → ∀ r ∈ trace events s store,
              (∀ credential, r.Equips credential →
                ∃ address deadline, settings.endpoint.address credential = .ok address ∧
                  r.dialed = [address] ∧
                  r.turn.session.attempt = some (.dialing credential deadline)) ∧
              ((∀ credential, ¬ r.Equips credential) → r.dialed = []) := by
  refine ⟨fun e credential hvalid => ?_, fun settings hvalid => ?_⟩
  · obtain ⟨target, htarget⟩ := Settings.Endpoint.exists_target hvalid
    obtain ⟨origin, hread, hconfines⟩ := Settings.Endpoint.confines_address htarget credential
    exact ⟨origin, _, hread, by rw [Settings.Endpoint.address, htarget]; rfl, hconfines⟩
  · obtain ⟨target, hsettings, htarget⟩ := Settings.exists_target hvalid
    refine ⟨target, hsettings, fun began stored store s events hstart r hr => ?_⟩
    obtain ⟨before, after, htrace⟩ := List.append_of_mem hr
    have hinformed := informed_trace hstart htrace
    have hmove := r.move hinformed.coherent
    refine ⟨fun credential hequips => ?_, fun hbare => ?_⟩
    · obtain ⟨hdialed, deadline, hdialing⟩ := hequips.dials hmove
      refine ⟨target.addressFor credential, deadline, ?_, ?_, hdialing⟩
      · rw [Settings.Endpoint.address, htarget]
        rfl
      · rw [← hinformed.target_eq]
        exact hdialed
    · refine List.eq_nil_iff_forall_not_mem.2 fun address haddress => ?_
      obtain ⟨credential, hequips⟩ := Record.exists_equips hmove haddress
      exact hbare credential hequips

/-- An endpoint whose origin has a user, a path and a query, and whose path and name have signs that
part what is in an address. -/
def Sample.awkward : Settings.Endpoint :=
  ⟨"https://u@[::1]:80/x?y=z#f", "/a?b=c", "t&s"⟩

/-- A credential of an awkward endpoint, which looks like two pairs and a fragment, stays one; and
the one that the provider gives for the last attempt of a run is called with.

**Proof sketch.** Both parts are those of `credential_confined`. The last event of the run is the
answer of the provider, which gives the attempt its credential. -/
theorem credential_confined_awkward :
    Sample.awkward.check = .ok () ∧
      (∃ origin address, Address.Origin.read Sample.awkward.origin = .ok origin ∧
        Sample.awkward.address "a&b=c#d" = .ok address ∧
        Sample.awkward.Confines "a&b=c#d" origin address) ∧
      ∃ target s store r address, Settings.target { endpoint := Sample.awkward } = .ok target ∧
        start Sample.epoch { endpoint := Sample.awkward } target (⟨[]⟩ : Store.Memory) =
          (s, store) ∧
        r ∈ trace Sample.renewal s store ∧ r.Equips "new" ∧
        Sample.awkward.address "new" = .ok address ∧ r.dialed = [address] := by
  have hvalid : Sample.awkward.check = .ok () := by rfl
  have hsettings : Settings.check { endpoint := Sample.awkward } = .ok () := by rfl
  obtain ⟨hconfined, hruns⟩ := credential_confined (σ := Store.Memory)
  obtain ⟨target, htarget, hrun⟩ := hruns _ hsettings
  obtain ⟨⟨s, store⟩, hstart⟩ : ∃ first,
    start Sample.epoch { endpoint := Sample.awkward } target (⟨[]⟩ : Store.Memory) = first :=
      ⟨_, rfl⟩
  obtain ⟨before, r, htrace⟩ : ∃ before r, trace Sample.renewal s store = before ++ [r] :=
    ⟨(trace Sample.renewal s store).take 4, _, rfl⟩
  have hmem : r ∈ trace Sample.renewal s store := by simp [htrace]
  have hequips : r.Equips "new" := by
    obtain ⟨rfl, rfl⟩ := Prod.ext_iff.1 hstart
    have hsplit : (trace Sample.renewal _ _).take 4 ++ [_] = before ++ [r] := htrace
    obtain ⟨-, hlast⟩ := List.append_inj' hsplit rfl
    obtain ⟨rfl, -⟩ := List.cons.inj hlast
    exact .provider (.ok (some "new")) none rfl rfl rfl
  obtain ⟨address, -, haddress, hdialed, -⟩ :=
    (hrun _ _ _ _ _ hstart r hmem).1 "new" hequips
  exact ⟨hvalid, hconfined _ _ hvalid, target, s, store, r, address, htarget, hstart, hmem, hequips,
    haddress, hdialed⟩

end Session

end Messenger
