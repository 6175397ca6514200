import Mathlib.Data.List.Basic
import Messenger.Proofs.Session.Kept
import Messenger.Terminal.Basic

set_option relaxedAutoImplicit false
set_option autoImplicit false

/-!
# What a user at a terminal asks for

The lines that are typed, up to the one that logs out, say what the session is asked for and what
the server is to be told. What a line says depends on its first word, and on the room that messages
go to, which the lines before it have left.

## Main definitions

* `Messenger.Terminal.contents`: all that a sitting has to tell the server.
* `Messenger.Terminal.agenda`: all that a sitting asks of the session.
* `Messenger.Session.Isolated`: events among which no link is opened, with what the user asks for.

## Main results

* `Messenger.Terminal.Line.read_iff`: which lines are messages, and which give an order.
* `Messenger.Terminal.filterMap_agenda`: what is asked for tells the server what it is to be told.
* `Messenger.Terminal.told_agenda`: all of it can be told.
* `Messenger.Session.Isolated.content_ordered`: what such events have to send is what the user asks
  for.
-/

namespace Messenger

/-- What an envelope tells, apart from when it was made and from its identifier. -/
def Envelope.content (e : Envelope) : Kind × Json.Value :=
  (e.kind, e.payload)

namespace Session

/-! ### Commands -/

/-- What a command has to tell the server. -/
def Command.content? : Command → Option (Kind × Json.Value)
  | .send e => some e.content
  | .join r => some (.joinRoom, Request.room r)
  | .leave r => some (.leaveRoom, Request.room r)
  | _ => none

/-- Whatever a command has to send, it can be told. -/
def Command.Told (c : Command) : Prop :=
  ∀ m : Moment, m.stamp.Valid → ∀ e ∈ c.envelope? m, e.Faithful 125

/-- What the user asks for by an event. To watch the state and to count what waits asks for
nothing. -/
def Event.request? : Event → Option Command
  | .command (.watch _ _) | .command (.unwatch _) | .command (.count _) => none
  | .command c => some c
  | _ => none

/-- **What one event sends.** What an event sends for the user tells the server what the user asks
for. -/
lemma Event.content_ordered (m : Moment) (event : Event) :
    (event.ordered m).map Envelope.content = (event.request?.bind Command.content?).toList := by
  cases event with
  | command c => cases c <;> rfl
  | _ => rfl

/-- What an event sends for the user can be told if what the user asks for can. -/
lemma Event.faithful_ordered {m : Moment} (hm : m.stamp.Valid) {event : Event}
    (h : ∀ c, event.request? = some c → c.Told) : ∀ e ∈ event.ordered m, e.Faithful 125 := by
  intro e he
  cases event with
  | command c =>
    have hsent : e ∈ c.envelope? m := Option.mem_toList.1 he
    refine h c ?_ m hm e hsent
    cases c <;> first | rfl | cases hsent
  | _ => cases he

/-- A room with a number of 64 bits can be told. -/
lemma Command.told_room {r : Room} (h : r < Text.limit64) :
    (Command.join r).Told ∧ (Command.leave r).Told := by
  constructor <;> rintro m hm _ ⟨rfl⟩
  · exact (faithful_room_iff hm rfl).2 h
  · exact (faithful_room_iff hm rfl).2 h

/-! ### Events -/

/-- The user asks for these commands, in this order, and no link is opened. All else can happen
between. -/
structure Isolated (commands : List Command) (events : List (Moment × Event)) : Prop where
  stamps : ∀ x ∈ events, x.1.stamp.Valid
  unopened : ∀ x ∈ events, x.2 ≠ .opened
  requests : events.filterMap (fun x => x.2.request?) = commands

namespace Isolated

variable {commands others : List Command} {events later : List (Moment × Event)}

/-- Nothing happens, and nothing is asked for. -/
lemma nil : Isolated [] [] :=
  ⟨fun _ h => absurd h List.not_mem_nil, fun _ h => absurd h List.not_mem_nil, rfl⟩

/-- Events are followed by others. -/
lemma append (h : Isolated commands events) (hlater : Isolated others later) :
    Isolated (commands ++ others) (events ++ later) := by
  refine ⟨?_, ?_, ?_⟩
  · intro x hx
    exact (List.mem_append.1 hx).elim (h.stamps x) (hlater.stamps x)
  · intro x hx
    exact (List.mem_append.1 hx).elim (h.unopened x) (hlater.unopened x)
  · rw [List.filterMap_append, h.requests, hlater.requests]

/-- **What a run sends.** What such events have to send tells the server what the user asks for.

**Proof sketch.** The same event by event (`Event.content_ordered`). -/
lemma content_ordered (h : Isolated commands events) :
    (events.flatMap fun x => x.2.ordered x.1).map Envelope.content =
      commands.filterMap Command.content? := by
  rw [← h.requests, List.filterMap_filterMap, List.map_flatMap,
    List.filterMap_eq_flatMap_toList]
  congr 1
  funext x
  exact Event.content_ordered x.1 x.2

/-- What such events have to send can be told if what the user asks for can. -/
lemma faithful (h : Isolated commands events) (htold : ∀ c ∈ commands, c.Told) :
    ∀ x ∈ events, x.1.stamp.Valid ∧ ∀ e ∈ x.2.ordered x.1, e.Faithful 125 := by
  intro x hx
  refine ⟨h.stamps x hx, Event.faithful_ordered (h.stamps x hx) fun c hc => htold c ?_⟩
  rw [← h.requests]
  exact List.mem_filterMap.2 ⟨x, hx, hc⟩

variable {σ : Type} [Storage σ]

/-- Such events open no link. -/
lemma not_opens (h : Isolated commands events) {s : Session} {store : σ} :
    ∀ r ∈ trace events s store, ¬ r.Opens := by
  intro r hr hopens
  have hmem := (trace_invariant (P := fun _ _ => True) (fun _ _ _ _ _ _ => trivial) trivial r hr).2
  exact h.unopened _ hmem (Record.opens_iff.1 hopens).1

end Isolated

end Session

namespace Terminal

open Session (Moment Command)

/-! ### What lines say -/

/-- The words that give an order. -/
def orders : List String := ["/join", "/leave", "/reconnect", "/online", "/logout"]

/-- The first word of a line, behind the blanks in front of it. -/
def wordOf (text : String) : String :=
  String.ofList (firstWord (Text.trim text.toList)).1

/-- The room whose number follows the first word of a line. -/
def roomIn? (text : String) : Option Room :=
  readRoom? (Text.trim (firstWord (Text.trim text.toList)).2)

/-- What a line has to tell the server while messages go to a room, or to none: that a room is
joined, that the room is left, or a message to the room, which is all of the line but the blanks
around it. -/
def contentOf? (room : Option Room) (text : String) : Option (Kind × Json.Value) :=
  if wordOf text = "/join" then (roomIn? text).map fun r => (.joinRoom, Request.room r)
  else if wordOf text = "/leave" then room.map fun r => (.leaveRoom, Request.room r)
  else if wordOf text ∈ orders ∨ Text.trim text.toList = [] then none
  else room.map fun r =>
    (.sendMessage, Request.message r (String.ofList (Text.trim text.toList)) "text")

/-- The room that messages go to after a line. -/
def roomAfter (room : Option Room) (text : String) : Option Room :=
  if wordOf text = "/join" then (roomIn? text).or room
  else if wordOf text = "/leave" then none
  else room

/-- All that lines have to tell the server, up to the first one that logs out. -/
def contentsOf (room : Option Room) : List String → List (Kind × Json.Value)
  | [] => []
  | text :: rest =>
    (contentOf? room text).toList ++
      if wordOf text = "/logout" then [] else contentsOf (roomAfter room text) rest

/-- All that a sitting has to tell the server, with the room to begin in, if there is one, and the
one that was stored. -/
def contents (first stored : Option Room) (texts : List String) : List (Kind × Json.Value) :=
  first.toList.map (fun r => (.joinRoom, Request.room r)) ++ contentsOf (first.or stored) texts

/-! ### What lines ask for -/

/-- What a line asks of the session, at a moment. A message without a room to go to is passed over,
and so is leaving no room. -/
def Line.command? (m : Moment) (room : Option Room) : Line → Option Command
  | .join r => some (.join r)
  | .leave => room.map .leave
  | .reconnect => some (.reconnect user)
  | .online => some (.wake .online)
  | .logout => some (.disconnect user)
  | .say text => room.map fun r =>
    .send (Session.Turn.envelope m .sendMessage (Request.message r text "text"))
  | .nothing => none

/-- The room that messages go to after what a line asks for. -/
def Line.after (room : Option Room) : Line → Option Room
  | .join r => some r
  | .leave => none
  | _ => room

/-- All that lines ask of the session, each at its moment, up to the first one that logs out. -/
def requests (room : Option Room) : List (Moment × String) → List Command
  | [] => []
  | (m, text) :: rest =>
    ((Line.read text).command? m room).toList ++
      if Line.read text = .logout then [] else requests ((Line.read text).after room) rest

/-- All that a sitting asks of the session, with the room to begin in, if there is one, and the one
that was stored. -/
def agenda (credential : String) (first stored : Option Room) (lines : List (Moment × String)) :
    List Command :=
  .connect credential user :: (first.toList.map .join ++ requests (first.or stored) lines)

/-! ### Lines -/

/-- **What a line asks for.** It is told by the first word of the line: it joins the room whose
number follows, leaves, logs out, or is a message if it is not blank and the word gives no order.

**Proof sketch.** An empty line asks for nothing. For any other, one case for each word that gives
an order, with the number of the room if it is the first, and one for all others. -/
theorem Line.read_iff (text : String) :
    (∀ r, read text = .join r ↔ wordOf text = "/join" ∧ roomIn? text = some r) ∧
    (read text = .leave ↔ wordOf text = "/leave") ∧
    (read text = .logout ↔ wordOf text = "/logout") ∧
    (∀ s, read text = .say s ↔ wordOf text ∉ orders ∧ Text.trim text.toList ≠ [] ∧
      s = String.ofList (Text.trim text.toList)) := by
  have hwords : ∀ (word : List Char) (s : String), String.ofList word = s ↔ word = s.toList := by
    intro word s
    rw [← String.toList_inj, String.toList_ofList]
  simp only [wordOf, roomIn?, orders, List.mem_cons, List.not_mem_nil, hwords, or_false, not_or]
  unfold read
  cases Text.trim text.toList with
  | nil => simp [firstWord]
  | cons c line =>
    obtain ⟨⟨word, rest⟩, hword⟩ : ∃ parts, firstWord (c :: line) = parts := ⟨_, rfl⟩
    simp only [ofTrimmed, hword]
    split
    · next h =>
      subst h
      split
      · next hroom => simp [hroom]
      · next hroom => simp [hroom]
    · split
      · next h => subst h; simp
      · split
        · next h => subst h; simp
        · split
          · next h => subst h; simp
          · split
            · next h => subst h; simp
            · next h₁ h₂ h₃ h₄ h₅ =>
              -- The word gives no order, so the line is a message.
              refine ⟨fun r => ⟨nofun, fun h => absurd h.1 h₁⟩, ⟨nofun, fun h => absurd h h₂⟩,
                ⟨nofun, fun h => absurd h h₅⟩, fun s => ⟨?_, ?_⟩⟩
              · rintro ⟨rfl⟩
                exact ⟨⟨h₁, h₂, h₃, h₄, h₅⟩, List.cons_ne_nil c line, rfl⟩
              · rintro ⟨-, -, rfl⟩
                rfl

/-- A line that neither joins nor leaves a room and is no message tells nothing, and messages go
where they went before. -/
lemma content_of_other {text : String} (hjoin : ∀ r, Line.read text ≠ .join r)
    (hleave : Line.read text ≠ .leave) (hsay : ∀ s, Line.read text ≠ .say s)
    (room : Option Room) : contentOf? room text = none ∧ roomAfter room text = room := by
  obtain ⟨hjoins, hleaves, -, hmessage⟩ := Line.read_iff text
  have hword : wordOf text ≠ "/leave" := fun h => hleave (hleaves.2 h)
  have hnone : wordOf text = "/join" → roomIn? text = none := fun h =>
    Option.eq_none_iff_forall_ne_some.2 fun r hr => hjoin r ((hjoins r).2 ⟨h, hr⟩)
  have hblank : wordOf text ∈ orders ∨ Text.trim text.toList = [] := by
    by_contra hnot
    obtain ⟨horder, hsome⟩ := not_or.1 hnot
    exact hsay _ ((hmessage _).2 ⟨horder, hsome, rfl⟩)
  by_cases hjoining : wordOf text = "/join"
  · rw [contentOf?, roomAfter, if_pos hjoining, if_pos hjoining, hnone hjoining]
    exact ⟨rfl, rfl⟩
  · rw [contentOf?, roomAfter, if_neg hjoining, if_neg hjoining, if_neg hword, if_neg hword,
      if_pos hblank]
    exact ⟨rfl, rfl⟩

/-- What a line asks of the session tells the server what the line has to tell, and leaves the room
that messages go to then.

**Proof sketch.** One case for each thing that a line can ask for, with what that says of its first
word (`read_iff`). Those that neither join nor leave nor say something are alike
(`content_of_other`). -/
lemma Line.content_read (m : Moment) (room : Option Room) (text : String) :
    ((read text).command? m room).bind Command.content? = contentOf? room text ∧
      (read text).after room = roomAfter room text := by
  obtain ⟨hjoin, hleave, -, hsay⟩ := read_iff text
  cases hline : read text with
  | join r =>
    obtain ⟨hword, hroom⟩ := (hjoin r).1 hline
    rw [contentOf?, roomAfter, if_pos hword, if_pos hword, hroom]
    exact ⟨rfl, rfl⟩
  | leave =>
    have hword := hleave.1 hline
    have hnot : wordOf text ≠ "/join" := by simp [hword]
    rw [contentOf?, roomAfter, if_neg hnot, if_neg hnot, if_pos hword, if_pos hword]
    cases room <;> exact ⟨rfl, rfl⟩
  | say s =>
    obtain ⟨hword, hsome, rfl⟩ := (hsay s).1 hline
    have hnot : wordOf text ≠ "/join" ∧ wordOf text ≠ "/leave" := by
      constructor <;> intro h <;> rw [h] at hword <;> exact hword (by decide)
    rw [contentOf?, roomAfter, if_neg hnot.1, if_neg hnot.1, if_neg hnot.2, if_neg hnot.2,
      if_neg (not_or.2 ⟨hword, hsome⟩)]
    cases room <;> exact ⟨rfl, rfl⟩
  | _ =>
    have hnot : (∀ r, read text ≠ .join r) ∧ read text ≠ .leave ∧ ∀ s, read text ≠ .say s := by
      simp [hline]
    obtain ⟨hcontent, hafter⟩ := content_of_other hnot.1 hnot.2.1 hnot.2.2 room
    rw [hcontent, hafter]
    exact ⟨rfl, rfl⟩

/-- What lines ask of the session tells the server what the lines have to tell.

**Proof sketch.** Induction on the lines. The first one has its command, if any, and the others are
read with the room that it leaves, unless it logs out. -/
lemma filterMap_requests (room : Option Room) (lines : List (Moment × String)) :
    (requests room lines).filterMap Command.content? = contentsOf room (lines.map (·.2)) := by
  induction lines generalizing room with
  | nil => rfl
  | cons x rest ih =>
    obtain ⟨m, text⟩ := x
    obtain ⟨hcontent, hafter⟩ := Line.content_read m room text
    have hfirst : ((Line.read text).command? m room).toList.filterMap Command.content? =
        (contentOf? room text).toList := by
      rw [← hcontent]
      cases hcommand : (Line.read text).command? m room with
      | none => rfl
      | some c => cases hc : c.content? <;> simp [hc]
    rw [requests, List.filterMap_append, hfirst, List.map_cons, contentsOf, hafter,
      List.append_right_inj]
    by_cases hlogout : Line.read text = .logout
    · rw [if_pos hlogout, if_pos ((Line.read_iff text).2.2.1.1 hlogout)]
      rfl
    · rw [if_neg hlogout, if_neg fun h => hlogout ((Line.read_iff text).2.2.1.2 h)]
      exact ih _

/-- **What a sitting asks for.** What it asks of the session tells the server what it is to be told.

**Proof sketch.** To connect tells nothing, to join the first room tells that, and the rest is what
the lines ask for (`filterMap_requests`). -/
theorem filterMap_agenda (credential : String) (first stored : Option Room)
    (lines : List (Moment × String)) :
    (agenda credential first stored lines).filterMap Command.content? =
      contents first stored (lines.map (·.2)) := by
  have hfirst : (first.toList.map Command.join).filterMap Command.content? =
      first.toList.map fun r => (.joinRoom, Request.room r) := by
    cases first <;> rfl
  rw [agenda, List.filterMap_cons_none rfl, List.filterMap_append, hfirst, filterMap_requests,
    contents]

/-! ### Rooms -/

/-- A room whose number a line gives is a number of 64 bits. -/
lemma Line.lt_of_read {text : String} {r : Room} (h : read text = .join r) :
    r < Text.limit64 := by
  have hroom := (((read_iff text).1 r).1 h).2
  unfold roomIn? readRoom? at hroom
  exact Text.lt_of_readUnsigned? hroom

/-- A room to begin in is a number of 64 bits. -/
lemma lt_of_firstRoom {values : Variables} {r : Room} (h : firstRoom? values = some r) :
    r < Text.limit64 := by
  unfold firstRoom? at h
  obtain ⟨bytes, -, h⟩ := Option.bind_eq_some_iff.1 h
  obtain ⟨text, -, h⟩ := Option.bind_eq_some_iff.1 h
  exact Text.lt_of_readUnsigned? h

/-- The room that messages go to after a line is a number of 64 bits if the one before is. -/
lemma Line.lt_of_after {room : Option Room} (hroom : ∀ r ∈ room, r < Text.limit64)
    (text : String) : ∀ r ∈ (read text).after room, r < Text.limit64 := by
  intro r hr
  cases hline : read text with
  | join r' =>
    rw [hline] at hr
    cases hr
    exact lt_of_read hline
  | leave =>
    rw [hline] at hr
    cases hr
  | _ =>
    rw [hline] at hr
    exact hroom r hr

/-! ### What can be told -/

/-- A message to a room can be told. -/
lemma faithful_message {m : Moment} (hm : m.stamp.Valid) {r : Room} (hr : r < Text.limit64)
    (text : String) :
    (Session.Turn.envelope m .sendMessage (Request.message r text "text")).Faithful 125 := by
  have hlt : (r : Int) < 0x10000000000000000 := Int.ofNat_lt.2 hr
  have hnames : ["content", "message_type", "room_id"].Pairwise (· < ·) := by decide
  refine ⟨rfl, hm, ⟨hnames, trivial, trivial, ⟨by omega, hlt⟩, trivial⟩,
    ⟨trivial, trivial, trivial, trivial⟩, ?_⟩
  simp [Session.Turn.envelope, Request.message, Json.Value.depth, Json.Value.depthMembers]

/-- What a line asks for can be told.

**Proof sketch.** One case for each thing that a line can ask for. The room of a line is a number of
64 bits as it was read, and so is the one that messages go to. -/
lemma Line.told_command {m : Moment} (hm : m.stamp.Valid) {room : Option Room}
    (hroom : ∀ r ∈ room, r < Text.limit64) {text : String} {c : Command}
    (h : (Line.read text).command? m room = some c) : c.Told := by
  cases hline : Line.read text with
  | join r =>
    rw [hline] at h
    cases h
    exact (Command.told_room (Line.lt_of_read hline)).1
  | leave =>
    rw [hline] at h
    obtain ⟨r, hr, rfl⟩ := Option.map_eq_some_iff.1 h
    exact (Command.told_room (hroom r hr)).2
  | say text =>
    rw [hline] at h
    obtain ⟨r, hr, rfl⟩ := Option.map_eq_some_iff.1 h
    rintro _ - _ ⟨rfl⟩
    exact faithful_message hm (hroom r hr) text
  | nothing =>
    rw [hline] at h
    cases h
  | _ =>
    rw [hline] at h
    cases h
    rintro _ - _ ⟨⟩

/-- What lines ask for can be told, if the room that messages go to is a number of 64 bits.

**Proof sketch.** Induction on the lines, as each of them leaves such a room or none. -/
lemma told_requests {room : Option Room} (hroom : ∀ r ∈ room, r < Text.limit64)
    {lines : List (Moment × String)} (hlines : ∀ x ∈ lines, x.1.stamp.Valid) :
    ∀ c ∈ requests room lines, c.Told := by
  induction lines generalizing room with
  | nil => nofun
  | cons x rest ih =>
    obtain ⟨m, text⟩ := x
    obtain ⟨hm, hrest⟩ := List.forall_mem_cons.1 hlines
    intro c hc
    rw [requests] at hc
    rcases List.mem_append.1 hc with hc | hc
    · exact Line.told_command hm hroom (Option.mem_toList.1 hc)
    · split at hc
      · cases hc
      · exact ih (Line.lt_of_after hroom text) hrest c hc

/-- **Nothing of it is lost in storage.** All that a sitting asks of the session can be told.

**Proof sketch.** The room to begin with and the one that was stored are numbers of 64 bits, and so
the lines keep it (`told_requests`). -/
theorem told_agenda {credential : String} {first stored : Option Room}
    {lines : List (Moment × String)} (hfirst : ∀ r ∈ first, r < Text.limit64)
    (hstored : ∀ r ∈ stored, r < Text.limit64) (hlines : ∀ x ∈ lines, x.1.stamp.Valid) :
    ∀ c ∈ agenda credential first stored lines, c.Told := by
  have hroom : ∀ r ∈ first.or stored, r < Text.limit64 := by
    cases first with
    | none => exact hstored
    | some r => exact hfirst
  intro c hc
  rcases List.mem_cons.1 hc with rfl | hc
  · rintro _ - _ ⟨⟩
  rcases List.mem_append.1 hc with hc | hc
  · obtain ⟨r, hr, rfl⟩ := List.mem_map.1 hc
    exact (Command.told_room (hfirst r (Option.mem_toList.1 hr))).1
  · exact told_requests hroom hlines c hc

end Terminal

end Messenger
