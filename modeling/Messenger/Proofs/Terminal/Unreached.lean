import Messenger.Proofs.Envelope.Reading
import Messenger.Proofs.Session.Authoring
import Messenger.Proofs.Session.Restart
import Messenger.Proofs.Store.Filing
import Messenger.Proofs.Terminal.Agenda
import Messenger.Terminal.Sitting

set_option relaxedAutoImplicit false
set_option autoImplicit false

/-!
# A sitting without a server

As long as no connection opens, all that a user at a terminal has to tell the server waits in a
file, in the order of the lines, behind what waited there before. Attempts may begin and fail at any
time, on their own or because a line asks for them, and the user may log out or just leave.

## Main definitions

* `Messenger.Terminal.Leads`: a terminal comes out of another one while no link is opened.
* `Messenger.Terminal.LeftBehind`: what a sitting without a server can leave behind in storage.
* `Messenger.Terminal.Holds`: a storage in files has these envelopes in its queue.

## Main results

* `Messenger.Session.Isolated.items_load`: what a queue has that is loaded after a session during
  which no link was opened.
* `Messenger.Terminal.leads_read`, `Messenger.Terminal.leads_start`: what a sitting asks of the
  session.
* `Messenger.Terminal.sitting_unreached`: what waits in the file when a sitting is over.
-/

namespace Messenger

/-! ### Sessions -/

/-- **All that was sent is in storage.** If no link is opened until a session ends, a queue that is
loaded then has what storage held at the beginning and, behind it, all that the session had to send.

**Proof sketch.** As long as no link is opened, what waits in both queues grows by what is sent
(`queued_run`), and in the end storage has both (`start_shutDown`). The queue that is loaded is the
one that a next session would have. -/
lemma Session.Isolated.items_load {σ : Type} [Storage σ] {commands : List Session.Command}
    {events : List (Session.Moment × Session.Event)} (h : Isolated commands events)
    (htold : ∀ c ∈ commands, c.Told) {settings : Settings} {target : Settings.Target}
    (hsettings : settings.target = .ok target) {sound : σ → Prop}
    (hreliable : Storage.Reliable [settings.storage.queueKey, settings.storage.roomKey] sound)
    {stored store : σ} (hsound : sound stored) {initial : List Envelope}
    (hstored : ∀ now, (Queue.Offline.readItems now settings.storage.queueKey stored).1 = initial)
    (hinitial : ∀ e ∈ initial, e.Faithful 125) {began : Timestamp} {s : Session}
    (hstart : start began settings target stored = (s, store)) (m : Session.Moment)
    (now : Timestamp) :
    (Queue.Offline.load now settings.storage.queueKey
        (shutDown m (run events s store).1 (run events s store).2.1).store).1.items =
      initial ++ events.flatMap fun x => x.2.ordered x.1 := by
  have hne := Settings.queueKey_ne_roomKey hsettings
  have horderly := orderly_start hstart
  obtain ⟨hkept, hitems, hshown, hpending, -⟩ :=
    kept_start hreliable hstart ⟨rfl, rfl⟩ hsound hinitial hstored
  have hlink : s.link = none := by
    obtain ⟨rfl, rfl⟩ := Prod.ext_iff.1 hstart
    rfl
  have hinitially : s.queued m.stamp store = initial := by
    rw [queued, Queue.Offline.contents_of_shown hshown, hpending, hitems, List.append_nil]
  have hevents := h.faithful htold
  have hqueued := queued_run hreliable hne hkept horderly hlink hevents h.not_opens m.stamp
  rw [hinitially] at hqueued
  -- The queue that is loaded is the one that a next session would have.
  obtain ⟨⟨next, resumed⟩, hnext⟩ : ∃ again, start now settings target
    (shutDown m (run events s store).1 (run events s store).2.1).store = again := ⟨_, rfl⟩
  have hloaded := congrArg (·.1.offline.items) hnext
  have hlast := kept_run hreliable hne hkept horderly.coherent hevents
  rw [← hqueued]
  exact hloaded.trans (start_shutDown hreliable hne ⟨rfl, rfl⟩ hlast hnext).1

/-- The room that can be read at first is the one that storage holds once the queue is loaded. -/
lemma Session.sharedRoom_start {σ : Type} [Storage σ] {now : Timestamp} {settings : Settings}
    {target : Settings.Target} {stored store : σ} {s : Session}
    (hstart : start now settings target stored = (s, store)) :
    s.sharedRoom = (loadRoom settings.storage.roomKey
      (Queue.Offline.load now settings.storage.queueKey stored).2).1 := by
  obtain ⟨rfl, rfl⟩ := Prod.ext_iff.1 hstart
  rfl

namespace Session.Turn

variable {σ : Type}

/-- To schedule the next attempt leaves alone the room that can be read. -/
lemma sharedRoom_retry (m : Moment) (t : Turn σ) :
    (t.retry m).session.sharedRoom = t.session.sharedRoom := by
  unfold retry
  split <;> rfl

variable [Storage σ]

/-- An attempt that fails leaves alone the room that can be read. -/
lemma sharedRoom_fail (m : Moment) (e : Error) (t : Turn σ) :
    (t.fail m e).session.sharedRoom = t.session.sharedRoom :=
  sharedRoom_retry m _

/-- To connect leaves alone the room that can be read. -/
lemma sharedRoom_connect (m : Moment) (credential : String) (caller : Nat) (t : Turn σ) :
    (t.connect m credential caller).session.sharedRoom = t.session.sharedRoom := by
  unfold connect
  dsimp only
  split
  · rfl
  · split
    · split
      · rfl
      · unfold dropLink
        dsimp only
        split <;> rfl
    · rfl

/-- What becomes of an attempt that opens no link leaves alone the room that can be read. -/
lemma sharedRoom_react (m : Moment) (answer : Credential.Answer) (e : Error) (t : Turn σ) :
    (react m (.acquired answer) t).session.sharedRoom = t.session.sharedRoom ∧
      (react m (.failed e) t).session.sharedRoom = t.session.sharedRoom := by
  constructor
  · unfold react
    dsimp only
    split
    · unfold acquire
      split <;> first | rfl | exact sharedRoom_fail m _ t
    · rfl
  · unfold react
    dsimp only
    split
    · exact sharedRoom_fail m e t
    · rfl

end Session.Turn

namespace Terminal

open Session (Moment Command Event Isolated)

variable {σ : Type} [Storage σ] {commands others : List Command} {t t' : Terminal σ}

/-! ### Terminals -/

/-- A terminal comes out of another one by events among which no link is opened and the user asks
for these commands. -/
def Leads (commands : List Command) (t t' : Terminal σ) : Prop :=
  ∃ events, Isolated commands events ∧
    (Session.run events t.session t.store).1 = t'.session ∧
    (Session.run events t.session t.store).2.1 = t'.store

/-- Nothing happens to a terminal. -/
lemma Leads.refl (t : Terminal σ) : Leads [] t t :=
  ⟨[], .nil, rfl, rfl⟩

/-- What leads from a terminal to another one is followed by what leads on from there. -/
lemma Leads.trans (h : Leads commands t t') {t'' : Terminal σ} (h' : Leads others t' t'') :
    Leads (commands ++ others) t t'' := by
  obtain ⟨events, hevents, hsession, hstore⟩ := h
  obtain ⟨later, hlater, hsession', hstore'⟩ := h'
  obtain ⟨hrun, hruns⟩ := Session.run_append events later t.session t.store
  rw [hsession, hstore] at hrun hruns
  exact ⟨events ++ later, hevents.append hlater, hrun.trans hsession', hruns.trans hstore'⟩

/-- An event that opens no link. -/
lemma leads_happen {m : Moment} (hm : m.stamp.Valid) (event : Event) (hevent : event ≠ .opened)
    (t : Terminal σ) : Leads event.request?.toList t (t.happen m event) := by
  refine ⟨[(m, event)], ⟨?_, ?_, ?_⟩, rfl, rfl⟩
  · simpa using hm
  · simpa using hevent
  · cases hrequest : event.request? <;> simp [hrequest]

/-- To bring an attempt to its end asks for nothing. -/
lemma leads_settle {m : Moment} (hm : m.stamp.Valid) (t : Terminal σ) :
    Leads [] t (t.settle m) :=
  (leads_happen hm (.acquired t.answer) nofun t).trans
    (leads_happen hm (.failed unreachable) nofun _)

/-- To give a command asks for it. -/
lemma leads_command {m : Moment} (hm : m.stamp.Valid) (c : Command) (t : Terminal σ) :
    Leads (Event.command c).request?.toList t (t.command m c) := by
  have h := (leads_happen hm (.command c) nofun t).trans (leads_settle hm _)
  rwa [List.append_nil] at h

/-- To make the next attempt asks for nothing. -/
lemma leads_tick {m : Moment} (hm : m.stamp.Valid) (t : Terminal σ) : Leads [] t (t.tick m) := by
  unfold tick
  split
  · exact (leads_happen hm .retryDue nofun t).trans (leads_settle hm _)
  · exact .refl t

/-- To make the next attempt leaves alone where messages go to, and does not log out. -/
lemma tick_eq (m : Moment) (t : Terminal σ) :
    (t.tick m).room = t.room ∧ (t.tick m).loggedOut = t.loggedOut := by
  unfold tick
  split <;> exact ⟨rfl, rfl⟩

/-- A line asks for its command, changes the room that messages go to, and may log out.

**Proof sketch.** One case for each thing that a line can ask for. Messages and leaving have no
effect without a room. -/
lemma hear_spec {m : Moment} (hm : m.stamp.Valid) (line : Line) (t : Terminal σ) :
    Leads (line.command? m t.room).toList t (t.hear m line) ∧
      (t.hear m line).room = line.after t.room ∧
      (t.hear m line).loggedOut = (t.loggedOut || line = .logout) := by
  have hcommand := fun c => leads_command hm c t
  obtain ⟨session, store, answer, room, loggedOut⟩ := t
  cases line with
  | join r => exact ⟨hcommand (.join r), rfl, (Bool.or_false _).symm⟩
  | leave =>
    cases room with
    | none => exact ⟨.refl _, rfl, (Bool.or_false _).symm⟩
    | some r => exact ⟨hcommand (.leave r), rfl, (Bool.or_false _).symm⟩
  | say text =>
    cases room with
    | none => exact ⟨.refl _, rfl, (Bool.or_false _).symm⟩
    | some r => exact ⟨hcommand (.send _), rfl, (Bool.or_false _).symm⟩
  | reconnect => exact ⟨hcommand (.reconnect user), rfl, (Bool.or_false _).symm⟩
  | online => exact ⟨hcommand (.wake .online), rfl, (Bool.or_false _).symm⟩
  | logout => exact ⟨hcommand (.disconnect user), rfl, (Bool.or_true _).symm⟩
  | nothing => exact ⟨.refl _, rfl, (Bool.or_false _).symm⟩

/-- Who has logged out is not heard any more. -/
lemma read_of_loggedOut (hout : t.loggedOut = true) (lines : List (Moment × String)) :
    t.read lines = t := by
  cases lines with
  | nil => rfl
  | cons x rest => simp [Terminal.read, hout]

/-- **Lines are heard one by one.** To read lines asks for what the lines that are heard ask for.

**Proof sketch.** Induction on the lines. Once a line has logged out no other one is heard. -/
lemma leads_read {lines : List (Moment × String)} (hlines : ∀ x ∈ lines, x.1.stamp.Valid)
    (hin : t.loggedOut = false) :
    Leads (requests t.room lines) t (t.read lines) := by
  induction lines generalizing t with
  | nil => exact .refl t
  | cons x rest ih =>
    obtain ⟨m, text⟩ := x
    obtain ⟨hm, hrest⟩ := List.forall_mem_cons.1 hlines
    obtain ⟨hroom, hlogged⟩ := tick_eq m t
    obtain ⟨hlead, hafter, hout⟩ := hear_spec hm (.read text) (t.tick m)
    rw [hroom] at hlead hafter
    rw [hlogged, hin, Bool.false_or] at hout
    have hfirst := (leads_tick hm t).trans hlead
    have hread : t.read ((m, text) :: rest) = ((t.tick m).hear m (.read text)).read rest := by
      simp [Terminal.read, hin]
    rw [hread, requests, ← hafter]
    refine hfirst.trans ?_
    split
    · next hlogout =>
      rw [read_of_loggedOut (hout.trans (decide_eq_true hlogout))]
      exact .refl _
    · next hnot => exact ih hrest (hout.trans (decide_eq_false hnot))

/-- To connect leaves alone the room that can be read. -/
lemma sharedRoom_command_connect (m : Moment) (credential : String) (t : Terminal σ) :
    (t.command m (.connect credential user)).session.sharedRoom = t.session.sharedRoom :=
  (Session.Turn.sharedRoom_react m t.answer unreachable _).2.trans
    ((Session.Turn.sharedRoom_react m t.answer unreachable _).1.trans
      (Session.Turn.sharedRoom_connect m credential user _))

/-- A terminal that has connected, and whose messages go to the room that was stored. -/
def connected (m : Moment) (credential : String) (t : Terminal σ) : Terminal σ :=
  { t.command m (.connect credential user) with
    room := (t.command m (.connect credential user)).session.sharedRoom }

/-- The beginning of a sitting is to connect and, if there is a room to begin in, to join it. -/
lemma start_eq {m : Moment} (plan : Plan) (values : Variables) {stored store : σ} {s : Session}
    (hstart : Session.start m.stamp plan.settings plan.target stored = (s, store)) :
    start m plan values stored =
      (firstRoom? values).elim
        (connected m plan.credential ⟨s, store, provider.ask values, none, false⟩)
        fun room => (connected m plan.credential ⟨s, store, provider.ask values, none, false⟩).hear
          m (.join room) := by
  unfold start
  cases firstRoom? values <;> simp only [hstart] <;> rfl

/-- **How a sitting begins.** It asks to connect, and to join the room to begin in. Without such a
room messages go to the one that was stored.

**Proof sketch.** To connect leaves alone the room that can be read. If there is a room to begin
with it is joined as if a line asked for it (`hear_spec`). -/
lemma leads_start {m : Moment} (hm : m.stamp.Valid) (plan : Plan) (values : Variables)
    {stored store : σ} {s : Session}
    (hstart : Session.start m.stamp plan.settings plan.target stored = (s, store)) :
    Leads (.connect plan.credential user :: (firstRoom? values).toList.map .join)
        ⟨s, store, provider.ask values, none, false⟩ (start m plan values stored) ∧
      (start m plan values stored).room = (firstRoom? values).or s.sharedRoom ∧
      (start m plan values stored).loggedOut = false := by
  obtain ⟨t, ht⟩ : ∃ t : Terminal σ, t = ⟨s, store, provider.ask values, none, false⟩ := ⟨_, rfl⟩
  have hconnect : Leads [.connect plan.credential user] t (connected m plan.credential t) :=
    leads_command hm (.connect plan.credential user) t
  have hshared : (connected m plan.credential t).room = s.sharedRoom := by
    rw [connected, sharedRoom_command_connect, ht]
  have hin : (connected m plan.credential t).loggedOut = false := by
    rw [ht]
    rfl
  rw [start_eq plan values hstart, ← ht]
  cases firstRoom? values with
  | none => exact ⟨hconnect, hshared, hin⟩
  | some room =>
    obtain ⟨hjoin, hroom, hout⟩ := hear_spec hm (.join room) (connected m plan.credential t)
    exact ⟨hconnect.trans hjoin, hroom, hout.trans (by rw [hin]; rfl)⟩

/-! ### Sittings -/

/-- The lines of an input, each at its moment. -/
def typed (momentOf : Nat → Moment) (input : ByteArray) : List (Moment × String) :=
  (linesOf input).zipIdx.map fun (text, n) => (momentOf (n + 1), text)

/-- The moments do not matter to what the lines are. -/
lemma map_typed (momentOf : Nat → Moment) (input : ByteArray) :
    (typed momentOf input).map (·.2) = linesOf input := by
  rw [typed, List.map_map]
  exact List.zipIdx_map_fst 0 _

/-- What a sitting without a server can leave behind in storage: the session has been asked for all
that the lines ask for, no link has been opened meanwhile, and it has ended in order. -/
def LeftBehind (plan : Plan) (first : Option Room) (lines : List (Moment × String))
    (stored left : σ) : Prop :=
  ∃ began events m s store,
    Session.start began plan.settings plan.target stored = (s, store) ∧
    Isolated (agenda plan.credential first
      (Session.loadRoom plan.settings.storage.roomKey stored).1 lines) events ∧
    (Session.shutDown m (Session.run events s store).1 (Session.run events s store).2.1).store =
      left

/-- A storage in files has these envelopes under a key: there is no file and there are none, or the
text in the file is read as a list of them, at whatever moment. -/
def Holds (key : String) (es : List Envelope) (files : Store.Files) : Prop :=
  files.read key = .ok none ∧ es = [] ∨
    ∃ text, files.read key = .ok (some text) ∧ ∀ now, Envelope.decodeAll now text = .ok es

/-- To load a queue does nothing to the files. -/
lemma snd_load_files (now : Timestamp) (key : String) (files : Store.Files) :
    (Queue.Offline.load now key files).2 = files := by
  have hread : (Storage.read key files).2 = files := rfl
  have hload : (Queue.Offline.load now key files).2 = (Queue.Offline.readItems now key files).2 :=
    rfl
  rw [hload, Queue.Offline.snd_readItems, hread]

/-- The envelopes that a storage has are loaded from it. -/
lemma Holds.readItems {key : String} {es : List Envelope} {files : Store.Files}
    (h : Holds key es files) (now : Timestamp) :
    (Queue.Offline.readItems now key files).1 = es := by
  rcases h with ⟨hread, rfl⟩ | ⟨text, hread, hdecode⟩
  · have hnone : (Storage.read key files).1 = .ok none := hread
    rw [Queue.Offline.fst_readItems_of_ok hnone]
    rfl
  · have hsome : (Storage.read key files).1 = .ok (some text) := hread
    rw [Queue.Offline.fst_readItems_of_ok hsome, Queue.Offline.itemsOf, hdecode]

/-- The envelopes that a storage has can be told if they hold no doubles. -/
lemma Holds.faithful {key : String} {es : List Envelope} {files : Store.Files}
    (h : Holds key es files) {now : Timestamp} (hnow : now.Valid)
    (hfloatFree : ∀ e ∈ es, e.payload.FloatFree) : ∀ e ∈ es, e.Faithful 125 := by
  intro e he
  rcases h with ⟨-, rfl⟩ | ⟨text, -, hdecode⟩
  · cases he
  · exact (Envelope.received_of_decodeAll hnow (hdecode now) e he).faithful (hfloatFree e he)

/-- The settings of a plan are valid. -/
lemma Plan.target_eq {content : Except String ByteArray} {values : Variables} {plan : Plan}
    (h : make content values = .ok plan) : plan.settings.target = .ok plan.target := by
  unfold make at h
  split at h
  · cases h
  · split at h
    · cases h
    · cases h
    · obtain ⟨target, htarget, rfl⟩ := Json.exists_of_map_eq_ok h
      exact htarget

/-- A sitting that ends leaves behind in storage one of the things that sittings can leave. -/
lemma leftBehind_close {momentOf : Nat → Moment} (hmoments : ∀ n, (momentOf n).stamp.Valid)
    (plan : Plan) (values : Variables) {lines : List (Moment × String)}
    (hlines : ∀ x ∈ lines, x.1.stamp.Valid) (stored : Store.Files) (m : Moment) :
    LeftBehind plan (firstRoom? values) lines stored
      (((start (momentOf 0) plan values stored).read lines).close m) := by
  obtain ⟨⟨s, store⟩, hstart⟩ : ∃ first,
    Session.start (momentOf 0).stamp plan.settings plan.target stored = first := ⟨_, rfl⟩
  obtain ⟨hbegin, hroom, hin⟩ := leads_start (hmoments 0) plan values hstart
  have hshared : s.sharedRoom =
      (Session.loadRoom plan.settings.storage.roomKey stored).1 := by
    rw [Session.sharedRoom_start hstart, snd_load_files]
  have hread := leads_read hlines hin
  rw [hroom, hshared] at hread
  obtain ⟨events, hevents, hsession, hstore⟩ := hbegin.trans hread
  refine ⟨_, events, m, s, store, hstart, hevents, ?_⟩
  rw [close, ← hsession, ← hstore]

/-- **A sitting without a server.** A user sits at a terminal without a server, with valid settings
and a credential. The queue and the room are kept in files of different names that can be written,
and the queue holds envelopes without doubles, or there is none yet. Whenever the session has
handled all that the lines ask for, without a connection that opened, and has ended in order, a
queue that is loaded then lists the envelopes that were there before and, behind them, all that the
lines have to tell the server, in their order. In particular this is so when a sitting is over at
which every attempt fails at once.

**Proof sketch.** Files like these are a reliable storage (`Store.reliable_files`). What waits for a
link keeps its order over any events that open none (`Isolated.items_load`), and the lines ask for
the same commands however these events fall between them (`filterMap_agenda`). -/
theorem sitting_unreached {args : List String} {values : Variables} {input : ByteArray}
    {momentOf : Nat → Moment} {tree grown : Store.Tree} {plan : Plan} {path : Store.Path}
    {files : Store.Files} {initial : List Envelope}
    (hmoments : ∀ n, (momentOf n).stamp.Valid)
    (hplan : Plan.make ((tree.readFile (settingsPath args)).mapError Store.FileError.message)
      values = .ok plan)
    (hopen : openStore plan.settings.storage tree = (.ok (path, files), grown))
    (hapart : Store.fileName plan.settings.storage.queueKey ≠
      Store.fileName plan.settings.storage.roomKey)
    (hready : files.Ready plan.settings.storage.queueKey ∧
      files.Ready plan.settings.storage.roomKey)
    (hholds : Holds plan.settings.storage.queueKey initial files)
    (hfloatFree : ∀ e ∈ initial, e.payload.FloatFree) :
    (sit args values input momentOf tree).1 = .ok () ∧
    LeftBehind plan (firstRoom? values) (typed momentOf input) files
      ⟨(sit args values input momentOf tree).2.children path⟩ ∧
    ∀ left, LeftBehind plan (firstRoom? values) (typed momentOf input) files left → ∀ now,
      ∃ added, (Queue.Offline.load now plan.settings.storage.queueKey left).1.items =
          initial ++ added ∧
        added.map Envelope.content = contents (firstRoom? values)
          (Session.loadRoom plan.settings.storage.roomKey files).1 (linesOf input) := by
  have hlines : ∀ x ∈ typed momentOf input, x.1.stamp.Valid := by
    intro x hx
    obtain ⟨⟨text, n⟩, -, rfl⟩ := List.mem_map.1 hx
    exact hmoments (n + 1)
  have hsit : sit args values input momentOf tree = (.ok (), grown.replaceChildren path
      (((start (momentOf 0) plan values files).read (typed momentOf input)).close
        (momentOf ((typed momentOf input).length + 1))).folder) := by
    simp only [sit, hplan, hopen]
    rfl
  refine ⟨by rw [hsit], ?_, ?_⟩
  · rw [hsit, Store.Tree.children_replaceChildren]
    exact leftBehind_close hmoments plan values hlines files _
  · rintro left ⟨began, events, m, s, store, hstart, hevents, rfl⟩ now
    have hreliable : Storage.Reliable
        [plan.settings.storage.queueKey, plan.settings.storage.roomKey] fun files : Store.Files =>
          ∀ key ∈ [plan.settings.storage.queueKey, plan.settings.storage.roomKey],
            files.Ready key := by
      apply Store.reliable_files
      simp [hapart, hapart.symm]
    have hsound : ∀ key ∈ [plan.settings.storage.queueKey, plan.settings.storage.roomKey],
        files.Ready key := by
      simpa using hready
    have htold : ∀ c ∈ agenda plan.credential (firstRoom? values)
        (Session.loadRoom plan.settings.storage.roomKey files).1 (typed momentOf input), c.Told :=
      told_agenda (fun r hr => lt_of_firstRoom hr) (fun r hr => Session.lt_of_loadRoom hr) hlines
    refine ⟨events.flatMap fun x => x.2.ordered x.1, ?_, ?_⟩
    · exact hevents.items_load htold (Plan.target_eq hplan) hreliable hsound hholds.readItems
        (hholds.faithful (hmoments 0) hfloatFree) hstart m now
    · rw [hevents.content_ordered, filterMap_agenda, map_typed]

namespace Sample

/-- The text of settings with a server on the same machine. -/
def text : String := "version: 1\nendpoint:\n  origin: ws://[::1]"

/-- The user has a credential, and begins in the seventh room. -/
def values : Variables
  | "CHATWIRE_TOKEN" => some "key".toUTF8
  | "CHATWIRE_ROOM" => some "7".toUTF8
  | _ => none

/-- The file in which the first note waits. -/
def files : Store.Files :=
  ⟨⟨[("chatwire.offline_queue.json",
    .file (Envelope.encodeAll [Sample.note 1]).toUTF8)]⟩⟩

/-- The settings, and the folder with that file. -/
def tree : Store.Tree :=
  Store.Tree.replaceChildren [".chatwire"] files.folder
    ⟨[(["chatwire.yaml"], .file text.toUTF8), ([".chatwire"], .folder)]⟩

/-- A message, and two lines that give orders. The last line comes too late. -/
def input : ByteArray := "hi\n/leave\n/logout\nlate".toUTF8

/-- All lines are typed at once. -/
def moments (n : Nat) : Moment := moment n Sample.epoch ""

/-- The plan for these settings. -/
def plan : Plan := ⟨Session.Sample.settings, Session.Sample.target, "key"⟩

/-- The settings are read from their file. -/
lemma make_plan : Plan.make ((tree.readFile (settingsPath [])).mapError Store.FileError.message)
    values = .ok plan := by
  have hload : Settings.load (.ok text.toUTF8) = .ok Session.Sample.settings := by
    decide +kernel
  show Plan.make (.ok text.toUTF8) values = _
  rw [Plan.make, hload]
  rfl

/-- Both files and their drafts can be in the folder. -/
lemma ready_files : files.Ready plan.settings.storage.queueKey ∧
    files.Ready plan.settings.storage.roomKey := by
  refine ⟨⟨⟨?_, ?_, ?_, nofun⟩, ⟨?_, ?_, ?_, nofun⟩⟩, ⟨⟨?_, ?_, ?_, nofun⟩, ⟨?_, ?_, ?_, nofun⟩⟩⟩
  all_goals decide

/-- What these lines have to tell the server. -/
lemma contents_input : contents (firstRoom? values)
    (Session.loadRoom plan.settings.storage.roomKey files).1 (linesOf input) =
      [(.joinRoom, Request.room 7), (.sendMessage, Request.message 7 "hi" "text"),
        (.leaveRoom, Request.room 7)] := by
  have hlines : linesOf input = ["hi", "/leave", "/logout", "late"] := rfl
  have hfirst : firstRoom? values = some 7 := rfl
  rw [hlines, hfirst]
  rfl

end Sample

/-- Behind the note that waits, a user without a server leaves that the seventh room is joined, a
message to it, and that it is left.

**Proof sketch.** The settings, the folder and the lines are computed, so that the theorem applies,
and then what the lines have to tell. -/
theorem sitting_unreached_note :
    (sit [] Sample.values Sample.input Sample.moments Sample.tree).1 = .ok () ∧
    ∃ added, (Queue.Offline.load Sample.epoch Sample.plan.settings.storage.queueKey
        (⟨(sit [] Sample.values Sample.input Sample.moments Sample.tree).2.children [".chatwire"]⟩ :
          Store.Files)).1.items = [Sample.note 1] ++ added ∧
      added.map Envelope.content = [(.joinRoom, Request.room 7),
        (.sendMessage, Request.message 7 "hi" "text"), (.leaveRoom, Request.room 7)] := by
  have hholds : Holds Sample.plan.settings.storage.queueKey [Sample.note 1] Sample.files :=
    .inr ⟨_, rfl, Envelope.decodeAll_encodeAll Session.Sample.faithful_stored⟩
  have hfloatFree : ∀ e ∈ [Sample.note 1], e.payload.FloatFree := fun e he =>
    (Session.Sample.faithful_stored e he).floatFree
  have hmoments : ∀ n, (Sample.moments n).stamp.Valid := fun _ => Sample.valid_epoch
  have hopen : openStore Sample.plan.settings.storage Sample.tree =
      (.ok ([".chatwire"], Sample.files), Sample.tree) := rfl
  have hapart : Store.fileName Sample.plan.settings.storage.queueKey ≠
      Store.fileName Sample.plan.settings.storage.roomKey := by decide
  have h := @sitting_unreached [] Sample.values Sample.input Sample.moments
    Sample.tree Sample.tree Sample.plan [".chatwire"] Sample.files [Sample.note 1] hmoments
    Sample.make_plan hopen hapart Sample.ready_files hholds hfloatFree
  rw [Sample.contents_input] at h
  obtain ⟨hok, hleft, hlisted⟩ := h
  exact ⟨hok, hlisted _ hleft Sample.epoch⟩

end Terminal

end Messenger
