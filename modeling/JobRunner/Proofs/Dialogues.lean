import JobRunner.Api.Session
import JobRunner.Proofs.Operations
import Mathlib.Data.List.Induction

/-!
# Dialogues

A live session at work, in steps as small as those of the hub: between any two of them come others,
and where several things can be done next, any of them is.

- `Dialogue`: a session with the hub, and where its two loops stand.
- `Dialogue.step`: what is done next, by the client, by one of the loops, or by others on the hub.
- `Dialogue.exists_cues_read`, `Dialogue.exists_cues_write`: what a session reads or writes in one
  piece is a dialogue in which nothing comes in between.
- `Dialogue.accepted`, `Dialogue.sent`: the events taken into the buffer of the session, and those
  sent to its client.
- `Dialogue.faithful_run`: a session sends the events that it accepts in their order, ignores what
  is no command, leaves nothing behind, and touches nobody else.
-/

namespace JobRunner.Api

/-- The event that a message to the client carries. -/
def ServerMessage.event? : ServerMessage → Option Event
  | event e => some e
  | pong | close => none

/-- The text of a message to the client. -/
def ServerMessage.text? : ServerMessage → Option String
  | event e => some e.toText
  | pong | close => none

/-- A message that is no command and does not end the session. -/
def ClientMessage.IsNoise : ClientMessage → Prop
  | text content => Command.parse? content = none
  | binary | ping => True
  | close => False

/-! ## Dialogues -/

/-- Where the loop that reads stands. -/
inductive Reader where
  | looping
  /-- A job is joined: its slot is to be found. -/
  | finding (job : JobId)
  /-- The slot has been found and is to be replayed. -/
  | replaying (job : JobId) (slot : SlotId)
  | delivering (e : Event)
  /-- The replay has failed: the subscriptions are to end. -/
  | removing
  | hangingUp
  /-- The loop has ended: the subscriptions are to end. -/
  | leaving
  | closing
  /-- The end of the other loop is waited for, for some time. -/
  | waiting
  | returned

/-- All subscriptions of the session have ended. -/
def Reader.hasLeft : Reader → Bool
  | closing | waiting | returned => true
  | _ => false

/-- The connection of the session has been closed. -/
def Reader.isOver : Reader → Bool
  | waiting | returned => true
  | _ => false

/-- A reader that is over has left. -/
theorem Reader.hasLeft_of_isOver {r : Reader} (h : r.isOver = true) : r.hasLeft = true := by
  cases r <;> first | rfl | cases h

/-- Where the loop that writes stands. -/
inductive Writer where
  | looping
  /-- An event has been taken from the buffer. -/
  | sending (e : Event)
  /-- The loop has ended: leave is to be taken of the client. -/
  | leaving
  | closing
  | done

namespace Writer

/-- The loop goes on. -/
def isLooping : Writer → Bool
  | looping | sending _ => true
  | _ => false

/-- The event that has been taken from the buffer and not been sent. -/
def held : Writer → List Event
  | sending e => [e]
  | _ => []

end Writer

/-- A session at work. -/
structure Dialogue where
  hub : Hub
  session : Session
  reader : Reader
  writer : Writer

/-- What is done next in a dialogue, if it can be. -/
inductive Cue where
  /-- The client sends a message. -/
  | receive (m : ClientMessage)
  /-- The client leaves without a word. -/
  | abandon
  | takeAll
  /-- The next message of the client is read. -/
  | read
  /-- Reading ends: the connection is closed, or nothing more comes from the client. -/
  | breakOff
  /-- What follows from the message, or from the end of the loop. -/
  | proceed
  /-- The next event is taken from the buffer. -/
  | pick
  /-- The event is sent. -/
  | send
  /-- The event cannot be sent. -/
  | fail
  /-- Writing ends, because the connection is closed. -/
  | quit
  /-- What follows from the end of the loop. -/
  | retire
  /-- The loop that writes is stopped, wherever it stands. -/
  | abort
  /-- Others do something on the hub. -/
  | others (op : HubOp)

/-- The session or its client does it. -/
def Cue.isOwn : Cue → Bool
  | others _ => false
  | _ => true

namespace Dialogue

/-- A session begins on a new connection, and is to join a job or none. -/
def begin (h : Hub) (room : Nat) (job : Option JobId) : Dialogue where
  hub := (h.openConnection room).2
  session := .new (h.openConnection room).1
  reader := job.elim .looping .finding
  writer := .looping

/-- The connection of the session. -/
def connection (t : Dialogue) : ConnectionId := t.session.connection

/-- Reads the next message of the client. -/
def heed (t : Dialogue) : Dialogue :=
  match t.session.inbox with
  | .text content :: inbox =>
    let session := { t.session with inbox }
    match Command.parse? content with
    | some (.subscribe job) => { t with session, reader := .finding job }
    | some (.unsubscribe job) => { t with session, hub := (t.hub.unsubscribe t.connection job).2 }
    | none => { t with session }
  | .binary :: inbox => { t with session := { t.session with inbox } }
  | .ping :: inbox => { t with session := { t.session with inbox }.send .pong }
  | .close :: inbox => { t with session := { t.session with inbox }.abandon, reader := .leaving }
  | [] => t

/-- Goes on with what follows from a message or from the end of the loop that reads. -/
def proceed (t : Dialogue) : Dialogue :=
  match t.reader with
  | .finding job =>
    match t.hub.findSlot t.connection job with
    | (some slot, hub) => { t with hub, reader := .replaying job slot }
    | (none, hub) => { t with hub, reader := .looping }
  | .replaying job slot =>
    let hub := (t.hub.subscribe t.connection job).2
    match t.hub.cache.cells[slot]? with
    | some e => { t with hub, reader := .delivering e }
    | none => { t with hub, reader := .looping }
  | .delivering e =>
    match t.hub.deliver t.connection e with
    | .ok hub => { t with hub := hub.countDelivered 1, reader := .looping }
    | .error _ => { t with reader := .removing }
  | .removing => { t with hub := (t.hub.unsubscribeAll t.connection).2, reader := .hangingUp }
  | .hangingUp =>
    let stats := { t.hub.stats with dropped := t.hub.stats.dropped + 1 }
    { t with hub := { t.hub.close t.connection with stats }, reader := .looping }
  | .leaving => { t with hub := (t.hub.unsubscribeAll t.connection).2, reader := .closing }
  | .closing =>
    { t with
      hub := t.hub.close t.connection
      session := { t.session with reading := false }
      reader := .waiting }
  | .waiting => { t with reader := .returned }
  | .looping | .returned => t

/-- The buffer is given up, and nothing more is written. -/
def giveUp (t : Dialogue) : Dialogue :=
  { t with
    hub := t.hub.abandon t.connection
    session := { t.session with writing := false }
    writer := .done }

/-- Something is done next. -/
def step (t : Dialogue) : Cue → Dialogue
  | .receive m => { t with session := t.session.receive m }
  | .abandon => { t with session := t.session.abandon }
  | .takeAll => { t with session := t.session.takeAll.2 }
  | .read =>
    match t.reader with
    | .looping => t.heed
    | _ => t
  | .breakOff =>
    match t.reader with
    | .looping => { t with reader := .leaving }
    | _ => t
  | .proceed => t.proceed
  | .pick =>
    match t.writer, t.hub.take t.connection 1 with
    | .looping, (e :: _, hub) => { t with hub, writer := .sending e }
    | _, _ => t
  | .send =>
    match t.writer with
    | .sending e =>
      if t.session.attended then { t with session := t.session.send (.event e), writer := .looping }
      else { t with writer := .leaving }
    | _ => t
  | .fail =>
    match t.writer with
    | .sending _ => { t with writer := .leaving }
    | _ => t
  | .quit =>
    match t.writer with
    | .looping =>
      if (t.hub.connection t.connection).closed then { t with writer := .leaving } else t
    | _ => t
  | .retire =>
    match t.writer with
    | .leaving => { t with session := t.session.send .close, writer := .closing }
    | .closing => t.giveUp
    | _ => t
  | .abort => if t.reader.isOver then t.giveUp else t
  | .others op => if op.owner? = some t.connection then t else { t with hub := op.act t.hub }

/-- Several things are done, one after the other. -/
def run (t : Dialogue) (cues : List Cue) : Dialogue := cues.foldl step t

/-! ## What is done next -/

/-- The messages to the client that are new. -/
def newMessages (x x' : Session) : List ServerMessage := x'.outbox.drop x.outbox.length

/-- The events among the messages to the client that are new. -/
def newEvents (x x' : Session) : List Event := (newMessages x x').filterMap ServerMessage.event?

/-- A change of the session without an event for its client. -/
structure Silent (x x' : Session) : Prop where
  connection : x'.connection = x.connection
  events : newEvents x x' = []

/-- What the next thing can be, by its effect; `own` says that the session or its client does it. -/
inductive Beat (t : Dialogue) : (own : Bool) → Dialogue → Prop
  | idle {own : Bool} : Beat t own t
  /-- Nothing happens on the hub, and nothing is written. -/
  | talk {x : Session} {reader : Reader} (silent : Silent t.session x)
      (left : reader.hasLeft = true → t.reader.hasLeft = true)
      (shut : reader.isOver = true → t.reader.isOver = true) :
    Beat t true { t with session := x, reader }
  /-- A message of the client has its effect on the hub. -/
  | operate {x : Session} {reader : Reader} (ops : List HubOp) (silent : Silent t.session x)
      (on : ∀ op ∈ ops, op.On t.connection) (keeps : ∀ op ∈ ops, ¬op.Drains t.connection)
      (stays : reader.hasLeft = false) :
    Beat t true { t with hub := ops.foldl HubOp.act t.hub, session := x, reader }
  /-- All subscriptions end. -/
  | leave : Beat t true { t with hub := (t.hub.unsubscribeAll t.connection).2, reader := .closing }
  /-- The connection is closed. -/
  | close {x : Session} (silent : Silent t.session x) (left : t.reader.hasLeft = true) :
    Beat t true { t with hub := t.hub.close t.connection, session := x, reader := .waiting }
  | pick {e : Event} {rest : List Event} (looping : t.writer = .looping)
      (first : (t.hub.connection t.connection).buffer = e :: rest) :
    Beat t true { t with hub := (t.hub.take t.connection 1).2, writer := .sending e }
  | send {e : Event} (sending : t.writer = .sending e) (attended : t.session.attended = true) :
    Beat t true { t with session := t.session.send (.event e), writer := .looping }
  /-- Nothing more is written. -/
  | cease {x : Session} {writer : Writer} (silent : Silent t.session x)
      (ended : writer.isLooping = false) : Beat t true { t with session := x, writer }
  | giveUp : Beat t true t.giveUp
  | others {op : HubOp} (foreign : op.owner? ≠ some t.connection) :
    Beat t false { t with hub := op.act t.hub }

/-- Nothing happens on the hub, nothing is written, and the reader has not left. -/
theorem Beat.talkOn {t : Dialogue} {x : Session} {reader : Reader} (silent : Silent t.session x)
    (stays : reader.hasLeft = false) (reads : reader.isOver = false) :
    Beat t true { t with session := x, reader } :=
  .talk silent (fun h => absurd (stays.symm.trans h) Bool.false_ne_true)
    fun h => absurd (reads.symm.trans h) Bool.false_ne_true

namespace Silent

variable {x x' : Session}

/-- A session that puts nothing into its outbox says nothing. -/
theorem of_outbox_eq (connection : x'.connection = x.connection) (outbox : x'.outbox = x.outbox) :
    Silent x x' :=
  ⟨connection, by rw [newEvents, newMessages, outbox, List.drop_length]; rfl⟩

theorem of_outbox_nil (connection : x'.connection = x.connection) (outbox : x'.outbox = []) :
    Silent x x' :=
  ⟨connection, by rw [newEvents, newMessages, outbox, List.drop_nil]; rfl⟩

/-- A session that does nothing says nothing. -/
theorem refl (x : Session) : Silent x x := of_outbox_eq rfl rfl

end Silent

/-- What a session sends is new only if somebody attends to it. -/
theorem newEvents_send (x x' : Session) (m : ServerMessage) (outbox : x'.outbox = x.outbox) :
    newEvents x (x'.send m) = if x'.attended then m.event?.toList else [] := by
  unfold Session.send
  split
  · show ((x'.outbox ++ [m]).drop x.outbox.length).filterMap _ = _
    rw [outbox, List.drop_left]
    cases m <;> rfl
  · rw [newEvents, newMessages, outbox, List.drop_length]
    rfl

theorem connection_send (x : Session) (m : ServerMessage) :
    (x.send m).connection = x.connection := by
  unfold Session.send
  split <;> rfl

theorem silent_send {x x' : Session} {m : ServerMessage} (connection : x'.connection = x.connection)
    (outbox : x'.outbox = x.outbox) (none : m.event? = none) : Silent x (x'.send m) := by
  refine ⟨(connection_send x' m).trans connection, ?_⟩
  rw [newEvents_send x x' m outbox, none]
  exact ite_self _

variable {t t' : Dialogue} {own : Bool} {cue : Cue}

private theorem beat_heed (looping : t.reader = .looping) : Beat t true t.heed := by
  unfold heed
  split
  · next content inbox _ =>
    have hsilent : Silent t.session { t.session with inbox } := .of_outbox_eq rfl rfl
    dsimp only
    split
    · exact .talkOn hsilent rfl rfl
    · next job _ =>
      exact .operate [.unsubscribe t.connection job] hsilent (by simp [HubOp.On])
        (by simp [HubOp.Drains]) (by rw [looping]; rfl)
    · exact .talk hsilent id id
  · exact .talk (.of_outbox_eq rfl rfl) id id
  · exact .talk (silent_send rfl rfl rfl) id id
  · exact .talkOn (.of_outbox_nil rfl rfl) rfl rfl
  · exact .idle

private theorem beat_proceed (t : Dialogue) : Beat t true t.proceed := by
  have silent : Silent t.session t.session := .refl _
  -- wherever the call to join stands, it subscribes its own connection only
  have subscribed : ∀ job reader, reader.hasLeft = false →
      Beat t true { t with hub := (t.hub.subscribe t.connection job).2, reader } :=
    fun job reader stays => .operate [.subscribe t.connection job] silent (by simp [HubOp.On])
      (by simp [HubOp.Drains]) stays
  cases hreader : t.reader with
  | finding job =>
    cases hslot : t.hub.cache.slots[job]? with
    | some slot =>
      simp only [proceed, hreader, Hub.findSlot, hslot]
      exact .talkOn silent rfl rfl
    | none =>
      simp only [proceed, hreader, Hub.findSlot, hslot]
      exact subscribed job .looping rfl
  | replaying job slot =>
    cases hcell : t.hub.cache.cells[slot]? with
    | some e =>
      simp only [proceed, hreader, hcell]
      exact subscribed job (.delivering e) rfl
    | none =>
      simp only [proceed, hreader, hcell]
      exact subscribed job .looping rfl
  | delivering e =>
    by_cases hr : (t.hub.connection t.connection).Refuses
    · obtain ⟨-, why, hdeliver⟩ := Hub.offer_of_refuses hr e
      simp only [proceed, hreader, hdeliver]
      exact .talkOn silent rfl rfl
    · obtain ⟨-, hdeliver⟩ := Hub.offer_of_not_refuses hr e
      -- a delivery that succeeds is the operation of that name, and counted
      have hact : (HubOp.deliver t.connection e).act t.hub = t.hub.offer t.connection e := by
        rw [HubOp.act, hdeliver]
        rfl
      simp only [proceed, hreader, hdeliver, ← hact]
      refine .operate [.deliver t.connection e, .note _ _] silent ?_ ?_ rfl
      · simp [HubOp.On]
      · simp [HubOp.Drains]
  | removing =>
    simp only [proceed, hreader]
    refine .operate [.unsubscribeAll t.connection] silent ?_ ?_ rfl
    · simp [HubOp.On]
    · simp [HubOp.Drains]
  | hangingUp =>
    simp only [proceed, hreader]
    refine .operate [.close t.connection, .note t.hub.cache _] silent ?_ ?_ rfl
    · simp [HubOp.On]
    · simp [HubOp.Drains]
  | leaving =>
    simp only [proceed, hreader]
    exact .leave
  | closing =>
    simp only [proceed, hreader]
    exact .close (.of_outbox_eq rfl rfl) (by rw [hreader]; rfl)
  | waiting =>
    simp only [proceed, hreader]
    exact .talk silent (fun _ => by rw [hreader]; rfl) fun _ => by rw [hreader]; rfl
  | looping | returned =>
    simp only [proceed, hreader]
    exact .idle

/-- What is done next is a beat. -/
theorem beat_step (t : Dialogue) (cue : Cue) : Beat t cue.isOwn (t.step cue) := by
  cases cue with
  | receive m => exact .talk (.of_outbox_eq rfl rfl) id id
  | abandon | takeAll => exact .talk (.of_outbox_nil rfl rfl) id id
  | read =>
    simp only [step]
    split
    · next looping => exact beat_heed looping
    · exact .idle
  | breakOff =>
    simp only [step]
    split
    · exact .talkOn (.refl _) rfl rfl
    · exact .idle
  | proceed => exact beat_proceed t
  | pick =>
    simp only [step]
    split
    · next e rest hub looping htake =>
      obtain ⟨hfirst, rfl⟩ := Prod.mk.inj htake
      -- what is picked is the first event of the buffer
      have hcons : ∀ es : List Event, es.take 1 = e :: rest → ∃ es', es = e :: es' := by
        intro es htake
        cases es with
        | nil => cases htake
        | cons e' es' => exact ⟨es', by rw [(List.cons.inj htake).1]⟩
      obtain ⟨es', hbuffer⟩ := hcons _ hfirst
      exact .pick looping hbuffer
    · exact .idle
  | send =>
    simp only [step]
    split
    · next e sending =>
      split
      · next attended => exact .send sending attended
      · exact .cease (.refl _) rfl
    · exact .idle
  | fail =>
    simp only [step]
    split
    · exact .cease (.refl _) rfl
    · exact .idle
  | quit =>
    simp only [step]
    split
    · split
      · exact .cease (.refl _) rfl
      · exact .idle
    · exact .idle
  | retire =>
    simp only [step]
    split
    · exact .cease (silent_send rfl rfl rfl) rfl
    · exact .giveUp
    · exact .idle
  | abort =>
    simp only [step]
    split
    · exact .giveUp
    · exact .idle
  | others op =>
    simp only [step]
    split
    · exact .idle
    · next foreign => exact .others foreign

/-! ## One connection -/

namespace Beat

/-- A beat happens at one connection. -/
theorem connection_eq (b : Beat t own t') : t'.connection = t.connection := by
  cases b with
  | talk silent | operate _ silent | close silent | cease silent => exact silent.connection
  | send => exact connection_send _ _
  | idle | leave | pick | giveUp | others => rfl

/-- On the hub, a beat is some operations; the session and its client make theirs on their own
connection. -/
theorem ops (b : Beat t own t') : ∃ ops : List HubOp,
    (own = true → ∀ op ∈ ops, op.On t.connection) ∧ t'.hub = ops.foldl HubOp.act t.hub := by
  cases b with
  | idle | talk | send | cease => exact ⟨[], nofun, rfl⟩
  | operate ops silent on => exact ⟨ops, fun _ => on, rfl⟩
  | leave => exact ⟨[.unsubscribeAll t.connection], by simp [HubOp.On], rfl⟩
  | close => exact ⟨[.close t.connection], by simp [HubOp.On], rfl⟩
  | pick => exact ⟨[.take t.connection 1], by simp [HubOp.On], rfl⟩
  | giveUp => exact ⟨[.abandon t.connection], by simp [HubOp.On], rfl⟩
  | @others op foreign => exact ⟨[op], nofun, rfl⟩

end Beat

/-- A session and its client leave all other connections as they are. -/
theorem seat_step_of_ne (hs : t.hub.subscriptions.Sound) (hown : cue.isOwn = true)
    {c : ConnectionId} (hne : c ≠ t.connection) : (t.step cue).hub.seat c = t.hub.seat c := by
  obtain ⟨ops, hon, hhub⟩ := (beat_step t cue).ops
  rw [hhub]
  exact HubOp.seat_foldl_act_of_on hs (hon hown) hne

/-- What is so of a session at any time: its subscriptions have ended when its tear-down has come
so far, and its connection is closed when that is over. -/
structure Orderly (t : Dialogue) : Prop where
  sound : t.hub.subscriptions.Sound
  opened : t.connection < t.hub.nextConnection
  left : t.reader.hasLeft = true → ∀ job, ¬t.hub.subscriptions.Follows t.connection job
  shut : t.reader.isOver = true → (t.hub.connection t.connection).closed = true

/-- A beat keeps a dialogue orderly. -/
theorem Beat.orderly (b : Beat t own t') (ho : t.Orderly) : t'.Orderly := by
  -- nothing but operations has happened on the hub
  obtain ⟨ops, -, hhub⟩ := b.ops
  have hsound : t'.hub.subscriptions.Sound := by
    rw [hhub]
    exact HubOp.sound_foldl_act ho.sound ops
  have hopened : t'.connection < t'.hub.nextConnection := by
    rw [b.connection_eq, hhub]
    exact Nat.lt_of_lt_of_le ho.opened (HubOp.nextConnection_le_foldl_act t.hub ops)
  have hset : ∀ connection : Connection,
      (t.hub.setConnection t.connection connection).connection t.connection = connection :=
    fun connection => (Hub.connection_setConnection _ _ _ _).trans (if_pos rfl)
  refine ⟨hsound, hopened, ?_, ?_⟩
  · rw [b.connection_eq]
    cases b with
    | idle | pick | send | cease | giveUp => exact ho.left
    | talk silent left shut => exact fun h => ho.left (left h)
    | operate ops silent on keeps stays => exact fun h => absurd (stays.symm.trans h) nofun
    | leave =>
      exact fun _ job hjob => ((Subscriptions.follows_unsubscribeAll ho.sound).mp hjob).2 rfl
    | close silent left => exact fun _ => ho.left left
    | others foreign =>
      have hnudge := HubOp.seat_act ho.sound ho.opened foreign
      exact fun h job hjob => ho.left h job (hnudge.follows hjob)
  · rw [b.connection_eq]
    cases b with
    | idle | send | cease => exact ho.shut
    | talk silent left shut => exact fun h => ho.shut (shut h)
    | operate ops silent on keeps stays =>
      exact fun h => absurd (stays.symm.trans (Reader.hasLeft_of_isOver h)) nofun
    | leave => exact nofun
    | close => exact fun _ => congrArg Connection.closed (hset _)
    | pick => exact fun h => (congrArg Connection.closed (hset _)).trans (ho.shut h)
    | giveUp => exact fun h => (congrArg Connection.closed (hset _)).trans (ho.shut h)
    | others foreign =>
      have hnudge := HubOp.seat_act ho.sound ho.opened foreign
      exact fun h => hnudge.closed (ho.shut h)

/-! ## Events -/

/-- The events in the buffer of the session. -/
def buffer (t : Dialogue) : List Event := (t.hub.connection t.connection).buffer

/-- The events that have been accepted and not been sent yet. -/
def pending (t : Dialogue) : List Event := t.writer.held ++ t.buffer

/-- The events accepted into the buffer of the session in the course of a dialogue. -/
def accepted (t : Dialogue) (cues : List Cue) : List Event :=
  Hub.collect step (fun t cue => (t.step cue).buffer.drop t.buffer.length) t cues

/-- The messages sent to the client in the course of a dialogue. -/
def messages (t : Dialogue) (cues : List Cue) : List ServerMessage :=
  Hub.collect step (fun t cue => newMessages t.session (t.step cue).session) t cues

/-- The events sent to the client in the course of a dialogue. -/
def sent (t : Dialogue) (cues : List Cue) : List Event :=
  (t.messages cues).filterMap ServerMessage.event?

/-- The texts sent to the client are those of the events. -/
theorem filterMap_text?_messages (t : Dialogue) (cues : List Cue) :
    (t.messages cues).filterMap ServerMessage.text? = (t.sent cues).map Event.toText := by
  rw [sent, List.map_filterMap]
  refine List.filterMap_congr fun m _ => ?_
  cases m <;> rfl

/-- While the loop that writes goes on, what is pending or accepted now is sent now or pending
afterwards. Once it has ended, nothing is sent. -/
structure Balanced (t t' : Dialogue) : Prop where
  began : t'.writer.isLooping = true → t.writer.isLooping = true
  goes : t'.writer.isLooping = true →
    t.pending ++ t'.buffer.drop t.buffer.length = newEvents t.session t'.session ++ t'.pending
  ended : t'.writer.isLooping = false → newEvents t.session t'.session = []

/-- Events may be added to the buffer while the loop that writes is left alone. -/
theorem Balanced.of_append (writer : t'.writer = t.writer)
    (connection : t'.connection = t.connection)
    (silent : newEvents t.session t'.session = [])
    (added : ∃ es, (t'.hub.connection t.connection).buffer = t.buffer ++ es) : Balanced t t' := by
  obtain ⟨es, hes⟩ := added
  have hbuffer : t'.buffer = t.buffer ++ es := by rw [buffer, connection, hes]
  refine ⟨fun h => writer ▸ h, fun _ => ?_, fun _ => silent⟩
  rw [pending, pending, silent, writer, hbuffer, List.drop_left, List.append_assoc, List.nil_append]

/-- What was accepted in a beat is sent in it or waits. -/
theorem Beat.balanced (b : Beat t own t') (ho : t.Orderly) : Balanced t t' := by
  have same : ∃ es, (t.hub.connection t.connection).buffer = t.buffer ++ es :=
    ⟨[], (List.append_nil _).symm⟩
  have hset : ∀ connection : Connection,
      (t.hub.setConnection t.connection connection).connection t.connection = connection :=
    fun connection => (Hub.connection_setConnection _ _ _ _).trans (if_pos rfl)
  have hno : newEvents t.session t.session = [] := (Silent.refl t.session).events
  cases b with
  | idle => exact .of_append rfl rfl hno same
  | talk silent => exact .of_append rfl silent.connection silent.events same
  | operate ops silent on keeps =>
    exact .of_append rfl silent.connection silent.events
      (HubOp.buffer_foldl_act ho.sound ho.opened keeps)
  | leave => exact .of_append rfl rfl hno same
  | close silent =>
    refine .of_append rfl silent.connection silent.events ⟨[], ?_⟩
    exact (congrArg Connection.buffer (hset _)).trans (List.append_nil _).symm
  | @pick e rest looping first =>
    -- the event goes from the buffer to the loop that writes, so it stays pending
    have hrest : ((t.hub.take t.connection 1).2.connection t.connection).buffer = rest := by
      refine (congrArg Connection.buffer (hset _)).trans ?_
      simp [first]
    refine ⟨fun _ => by rw [looping]; rfl, fun _ => ?_, fun h => by cases h⟩
    simp only [pending, buffer, connection] at first hrest ⊢
    rw [first, hrest, looping, hno]
    simp [Writer.held]
  | @send e sending attended =>
    -- what the loop held is sent
    have hsent : newEvents t.session (t.session.send (.event e)) = [e] :=
      (newEvents_send _ _ _ rfl).trans (if_pos attended)
    refine ⟨fun _ => by rw [sending]; rfl, fun _ => ?_, fun h => by cases h⟩
    simp only [pending, buffer, connection, connection_send, hsent, sending]
    simp [Writer.held]
  | cease silent ended =>
    exact ⟨fun h => absurd (ended.symm.trans h) nofun, fun h => absurd (ended.symm.trans h) nofun,
      fun _ => silent.events⟩
  | giveUp => exact ⟨nofun, nofun, fun _ => (Silent.of_outbox_eq rfl rfl).events⟩
  | others foreign =>
    exact .of_append rfl rfl hno (HubOp.seat_act ho.sound ho.opened foreign).buffer

/-! ## Runs -/

/-- A dialogue is orderly after any cues. -/
theorem orderly_run (ho : t.Orderly) (cues : List Cue) : (t.run cues).Orderly := by
  induction cues generalizing t with
  | nil => exact ho
  | cons cue cues ih => exact ih ((beat_step t cue).orderly ho)

/-- What is sent was accepted, in the same order. As long as the loop that writes goes on, the rest
of what was accepted is pending. -/
theorem sent_run (ho : t.Orderly) (begun : t.pending = []) (cues : List Cue) :
    t.sent cues <+: t.accepted cues ∧
      ((t.run cues).writer.isLooping = true →
        t.accepted cues = t.sent cues ++ (t.run cues).pending) := by
  induction cues using List.reverseRecOn with
  | nil => exact ⟨List.prefix_refl _, fun _ => begun.symm⟩
  | append_singleton cues cue ih =>
    have hbalanced := (beat_step (t.run cues) cue).balanced (orderly_run ho cues)
    have hrun : t.run (cues ++ [cue]) = (t.run cues).step cue := List.foldl_append
    have hsent : t.sent (cues ++ [cue]) =
        t.sent cues ++ newEvents (t.run cues).session ((t.run cues).step cue).session := by
      rw [sent, messages, Hub.collect_append, List.filterMap_append]
      simp [Hub.collect]
      rfl
    have haccepted : t.accepted (cues ++ [cue]) = t.accepted cues ++
        ((t.run cues).step cue).buffer.drop (t.run cues).buffer.length := by
      rw [accepted, Hub.collect_append]
      simp [Hub.collect]
      rfl
    rw [hrun, hsent, haccepted]
    -- a loop that has ended sends nothing, so that the prefix stays one
    by_cases hgoes : ((t.run cues).step cue).writer.isLooping = true
    · have hall : t.accepted cues ++
            ((t.run cues).step cue).buffer.drop (t.run cues).buffer.length =
          (t.sent cues ++ newEvents (t.run cues).session ((t.run cues).step cue).session) ++
            ((t.run cues).step cue).pending := by
        rw [ih.2 (hbalanced.began hgoes), List.append_assoc, hbalanced.goes hgoes,
          List.append_assoc]
      exact ⟨⟨_, hall.symm⟩, fun _ => hall⟩
    · rw [hbalanced.ended (Bool.not_eq_true _ ▸ hgoes), List.append_nil]
      exact ⟨ih.1.trans (List.prefix_append _ _), fun h => absurd h hgoes⟩

/-- A dialogue is orderly when it begins. -/
theorem orderly_begin {h : Hub} (hs : h.subscriptions.Sound) (room : Nat) (job : Option JobId) :
    (begin h room job).Orderly := by
  refine ⟨hs, Nat.lt_succ_self _, ?_, ?_⟩
  all_goals cases job <;> exact nofun

/-- Nothing waits when a dialogue begins. -/
theorem pending_begin (h : Hub) (room : Nat) (job : Option JobId) :
    (begin h room job).pending = [] := by
  have hnew : ((begin h room job).hub.connection (begin h room job).connection) = .new room :=
    (Hub.connection_setConnection _ _ _ _).trans (if_pos rfl)
  rw [pending, buffer, hnew]
  rfl

@[simp] theorem connection_run (t : Dialogue) (cues : List Cue) :
    (t.run cues).connection = t.connection := by
  induction cues generalizing t with
  | nil => rfl
  | cons cue cues ih => exact (ih _).trans (beat_step t cue).connection_eq

/-- A step reads a message of the client and does nothing else, but that it may answer a ping. -/
structure Ignores (t t' : Dialogue) (inbox : List ClientMessage) : Prop where
  session : t'.session = { t.session with inbox, outbox := t'.session.outbox }
  hub : t'.hub = t.hub
  reader : t'.reader = t.reader
  writer : t'.writer = t.writer
  silent : (newMessages t.session t'.session).filterMap ServerMessage.text? = []

/-- What is no command is read and forgotten. -/
theorem ignores_read (looping : t.reader = .looping) {m : ClientMessage}
    {inbox : List ClientMessage} (hinbox : t.session.inbox = m :: inbox) (hm : m.IsNoise) :
    t.Ignores (t.step .read) inbox := by
  have hread : t.step .read = t.heed := by simp only [step, looping]
  have hsame : t.Ignores { t with session := { t.session with inbox } } inbox := by
    refine ⟨rfl, rfl, rfl, rfl, ?_⟩
    rw [newMessages, List.drop_length]
    rfl
  rw [hread, heed, hinbox]
  cases m with
  | text content =>
    simp only [show Command.parse? content = none from hm]
    exact hsame
  | binary => exact hsame
  | ping =>
    unfold Session.send
    dsimp only
    split
    · refine ⟨rfl, rfl, rfl, rfl, ?_⟩
      show ((t.session.outbox ++ [ServerMessage.pong]).drop _).filterMap _ = []
      rw [List.drop_left]
      rfl
    · exact hsame
  | close => exact hm.elim

/-! ## Reading and writing in one piece -/

@[simp] theorem run_cons (t : Dialogue) (cue : Cue) (cues : List Cue) :
    t.run (cue :: cues) = (t.step cue).run cues := rfl

@[simp] theorem run_nil (t : Dialogue) : t.run [] = t := rfl

theorem run_append (t : Dialogue) (cues cues' : List Cue) :
    t.run (cues ++ cues') = (t.run cues).run cues' := List.foldl_append

/-- What others do in sections and calls, they do in steps. -/
theorem exists_cues_others {h' : Hub} (h : t.hub.Operated t.connection h') :
    ∃ cues, t.run cues = { t with hub := h' } := by
  obtain ⟨ops, foreign, rfl⟩ := h
  induction ops generalizing t with
  | nil => exact ⟨[], rfl⟩
  | cons op ops ih =>
    obtain ⟨hop, hops⟩ := List.forall_mem_cons.mp foreign
    have hstep : t.step (.others op) = { t with hub := op.act t.hub } := if_neg hop
    obtain ⟨cues, hcues⟩ := ih (t := { t with hub := op.act t.hub }) hops
    exact ⟨.others op :: cues, by rw [run_cons, hstep, hcues]; rfl⟩

/-- The steps of a call to join, with nothing in between. -/
theorem exists_cues_join (job : JobId) (finding : t.reader = .finding job) :
    ∃ cues, t.run cues = { t with hub := (t.hub.join t.connection job).2, reader := .looping } := by
  obtain ⟨hub, session, reader, writer⟩ := t
  obtain rfl := finding
  rw [Hub.join_snd]
  cases hslot : hub.cache.slots[job]? with
  | none =>
    refine ⟨[.proceed], ?_⟩
    simp only [run_cons, run_nil, step, proceed, Hub.findSlot, hslot]
  | some slot =>
    -- with a slot, the call takes two steps more, and four if the delivery fails
    have hfound : run ⟨hub, session, .finding job, writer⟩ [.proceed] =
        ⟨hub, session, .replaying job slot, writer⟩ := by
      simp only [run_cons, run_nil, step, proceed, Hub.findSlot, hslot]
    have hcells : (hub.subscribe session.connection job).2.cache = hub.cache := rfl
    simp only [Hub.replay, connection, hcells]
    cases hcell : hub.cache.cells[slot]? with
    | none =>
      refine ⟨[.proceed] ++ [.proceed], ?_⟩
      rw [run_append, hfound]
      simp only [run_cons, run_nil, step, proceed, connection, hcell]
    | some e =>
      have hsubscribed : run ⟨hub, session, .replaying job slot, writer⟩ [.proceed] =
          ⟨(hub.subscribe session.connection job).2, session, .delivering e, writer⟩ := by
        simp only [run_cons, run_nil, step, proceed, connection, hcell]
      cases hdeliver : (hub.subscribe session.connection job).2.deliver session.connection e with
      | ok hub' =>
        refine ⟨[.proceed] ++ ([.proceed] ++ [.proceed]), ?_⟩
        rw [run_append, hfound, run_append, hsubscribed]
        simp only [run_cons, run_nil, step, proceed, connection, hdeliver]
      | error why =>
        refine ⟨[.proceed] ++ ([.proceed] ++ [.proceed, .proceed, .proceed]), ?_⟩
        rw [run_append, hfound, run_append, hsubscribed]
        simp only [run_cons, run_nil, step, proceed, connection, hdeliver]
        rfl

/-- A session opened in one piece begins a dialogue and joins its job. -/
theorem exists_cues_start {s s' : Service} {c : ConnectionId} (job : Option JobId)
    (opened : s.openConnection? = some (c, s')) :
    ∃ cues, (begin s.hub s.settings.connectionBuffer job).run cues =
      ⟨(Session.start s job).2.hub, (Session.start s job).1, .looping, .looping⟩ := by
  have hhub : s'.hub = (s.hub.openConnection s.settings.connectionBuffer).2 ∧
      c = (s.hub.openConnection s.settings.connectionBuffer).1 := by
    unfold Service.openConnection? Hub.openConnection? at opened
    split at opened
    · cases opened
      exact ⟨rfl, rfl⟩
    · cases opened
  cases job with
  | none =>
    refine ⟨[], ?_⟩
    simp only [Session.start, opened, run_nil, begin, hhub.1, hhub.2]
    rfl
  | some job =>
    obtain ⟨cues, hcues⟩ := exists_cues_join job
      (t := begin s.hub s.settings.connectionBuffer (some job)) rfl
    refine ⟨cues, hcues.trans ?_⟩
    simp only [Session.start, Service.connect?, opened, Option.map_some, Service.subscribe, hhub.1,
      hhub.2]
    rfl

section

variable {s : Service} {x : Session} {writer : Writer}

/-- The dialogue after a session has read in one piece. -/
private def afterReading (r : Session × Service) (writer : Writer) : Dialogue :=
  ⟨r.2.hub, r.1, if r.1.reading then .looping else .waiting, writer⟩

/-- The tear-down in one piece. -/
private theorem run_leaving (x : Session) (s : Service) (writer : Writer) :
    run ⟨s.hub, x, .leaving, writer⟩ [.proceed, .proceed] = afterReading (x.finish s) writer := rfl

/-- What a session reads in one piece is read in steps with nothing in between. -/
theorem exists_cues_read (reading : x.reading = true) (s : Service) (writer : Writer) :
    ∃ cues, run ⟨s.hub, x, .looping, writer⟩ cues = ⟨(x.read s).2.hub, (x.read s).1,
      if (x.read s).1.reading then .looping else .waiting, writer⟩ := by
  show ∃ cues, run ⟨s.hub, x, .looping, writer⟩ cues = afterReading (x.read s) writer
  have hread : ∀ {r}, x.read s = r → ∀ cues, run ⟨s.hub, x, .looping, writer⟩ cues =
      afterReading r writer → ∃ cues, run ⟨s.hub, x, .looping, writer⟩ cues =
        afterReading (x.read s) writer := by
    rintro _ rfl cues hcues
    exact ⟨cues, hcues⟩
  -- the cases are those of `Session.read`, each with the cues that lead there
  by_cases hung : x.isHungUp s = true
  · have hfinish : x.read s = x.finish s := by simp [Session.read, reading, hung]
    exact hread hfinish [.breakOff, .proceed, .proceed] (run_leaving x s writer)
  · cases hinbox : x.inbox with
    | nil =>
      by_cases attended : x.attended = true
      · have hnothing : x.read s = (x, s) := by simp [Session.read, reading, hung, hinbox, attended]
        refine hread hnothing [] ?_
        simp [afterReading, reading]
      · have hfinish : x.read s = x.finish s := by
          simp [Session.read, reading, hung, hinbox, attended]
        exact hread hfinish [.breakOff, .proceed, .proceed] (run_leaving x s writer)
    | cons m inbox =>
      cases m with
      | text content =>
        have hobey : x.read s = ({ x with inbox }, x.obey s content) := by
          simp [Session.read, reading, hung, hinbox]
        cases hcommand : Command.parse? content with
        | none =>
          refine hread hobey [.read] ?_
          simp [step, heed, hinbox, hcommand, afterReading, reading, Session.obey]
        | some command =>
          cases command with
          | unsubscribe job =>
            refine hread hobey [.read] ?_
            simp only [run_cons, run_nil, step, heed, hinbox, hcommand, afterReading, reading,
              Session.obey]
            rfl
          | subscribe job =>
            obtain ⟨cues, hcues⟩ := exists_cues_join job
              (t := ⟨s.hub, { x with inbox }, .finding job, writer⟩) rfl
            refine hread hobey ([.read] ++ cues) ?_
            have hfinding : run ⟨s.hub, x, .looping, writer⟩ [.read] =
                ⟨s.hub, { x with inbox }, .finding job, writer⟩ := by
              simp only [run_cons, run_nil, step, heed, hinbox, hcommand]
            rw [run_append, hfinding, hcues]
            simp only [afterReading, reading, Session.obey, hcommand]
            rfl
      | binary =>
        have hskip : x.read s = ({ x with inbox }, s) := by
          simp [Session.read, reading, hung, hinbox]
        refine hread hskip [.read] ?_
        simp [step, heed, hinbox, afterReading, reading]
      | ping =>
        have hskip : x.read s = ({ x with inbox }.send .pong, s) := by
          simp [Session.read, reading, hung, hinbox]
        refine hread hskip [.read] ?_
        have hreading : ({ x with inbox }.send .pong).reading = true := by
          unfold Session.send
          split <;> exact reading
        simp [step, heed, hinbox, afterReading, hreading]
      | close =>
        have hfinish : x.read s = ({ x with inbox }.abandon).finish s := by
          simp [Session.read, reading, hung, hinbox]
        refine hread hfinish ([.read] ++ [.proceed, .proceed]) ?_
        have hleaving : run ⟨s.hub, x, .looping, writer⟩ [.read] =
            ⟨s.hub, { x with inbox }.abandon, .leaving, writer⟩ := by
          simp [step, heed, hinbox]
        rw [run_append, hleaving]
        exact run_leaving _ s writer

/-- What a session writes in one piece is written in steps with nothing in between. -/
theorem exists_cues_write (writing : x.writing = true) (s : Service) (reader : Reader) :
    ∃ cues, run ⟨s.hub, x, reader, .looping⟩ cues = ⟨(x.write s).2.hub, (x.write s).1, reader,
      if (x.write s).1.writing then .looping else .done⟩ := by
  -- the cases are those of `Session.write`
  by_cases hung : x.isHungUp s = true
  · have hstop : x.write s = (x.send .close).stopWriting s := by simp [Session.write, writing, hung]
    have hclosed : (s.hub.connection x.connection).closed = true := hung
    refine ⟨[.quit, .retire, .retire], ?_⟩
    rw [hstop]
    simp only [run_cons, run_nil, step, connection, hclosed, if_true, giveUp, connection_send]
    simp only [Session.stopWriting, connection_send]
    rfl
  · rcases htake : s.hub.take x.connection 1 with ⟨_ | ⟨e, rest⟩, hub⟩
    · have hnothing : x.write s = (x, s) := by simp [Session.write, writing, hung, htake]
      refine ⟨[], ?_⟩
      rw [hnothing, run_nil]
      simp [writing]
    · have hpicked : run ⟨s.hub, x, reader, .looping⟩ [.pick] = ⟨hub, x, reader, .sending e⟩ := by
        simp only [run_cons, run_nil, step, connection, htake]
      by_cases attended : x.attended = true
      · have hsend : x.write s = (x.send (.event e), { s with hub }) := by
          simp [Session.write, writing, hung, htake, attended]
        have hwriting : (x.send (.event e)).writing = true := by
          unfold Session.send
          split <;> exact writing
        refine ⟨[.pick] ++ [.send], ?_⟩
        rw [hsend, run_append, hpicked]
        simp [step, attended, hwriting]
      · have hstop : x.write s = x.stopWriting { s with hub } := by
          simp [Session.write, writing, hung, htake, attended]
        have hsilent : x.send .close = x := if_neg attended
        refine ⟨[.pick] ++ [.send, .retire, .retire], ?_⟩
        rw [hstop, run_append, hpicked]
        simp only [run_cons, run_nil, step, if_neg attended, hsilent, giveUp, connection]
        rfl

end

/-! ## Sessions -/

/-- A live session sends its client the events accepted into its buffer, in their order, without a
gap and without repetition. What is no command changes nothing. When the session has returned, its
connection follows no job and is closed. And whatever the session or its client does, no other
connection notices, neither in its buffer nor in its subscriptions. -/
theorem faithful_run (capacity : Nat) (ops : List HubOp) (room : Nat) (job : Option JobId)
    (cues : List Cue) :
    let t₀ := begin (ops.foldl HubOp.act (.empty capacity)) room job
    let t := t₀.run cues
    (∃ es, es <+: t₀.accepted cues ∧
      (t₀.messages cues).filterMap ServerMessage.text? = es.map Event.toText) ∧
    (∀ m inbox, t.reader = .looping → t.session.inbox = m :: inbox → m.IsNoise →
      t.Ignores (t.step .read) inbox) ∧
    (t.reader = .returned →
      t.hub.subscriptions.jobsFor t₀.connection = [] ∧
        (∀ j, t₀.connection ∉ t.hub.subscriptions.connectionsFor j) ∧
        (t.hub.connection t₀.connection).closed = true) ∧
    ∀ cue, cue.isOwn = true → ∀ c, c ≠ t₀.connection →
      (t.step cue).hub.connection c = t.hub.connection c ∧
        ∀ j, (t.step cue).hub.subscriptions.Follows c j ↔ t.hub.subscriptions.Follows c j := by
  intro t₀ t
  have hs : (ops.foldl HubOp.act (.empty capacity)).subscriptions.Sound :=
    HubOp.sound_foldl_act (h := .empty capacity) Subscriptions.sound_empty ops
  -- the dialogue begins on a sound hub with nothing pending, and both last
  have ho₀ : t₀.Orderly := orderly_begin hs room job
  have ho : t.Orderly := orderly_run ho₀ cues
  have hconnection : t.connection = t₀.connection := connection_run t₀ cues
  refine ⟨?_, fun _ _ looping hinbox => ignores_read looping hinbox, ?_, ?_⟩
  · exact ⟨t₀.sent cues, (sent_run ho₀ (pending_begin _ _ _) cues).1,
      filterMap_text?_messages t₀ cues⟩
  · intro returned
    have hleft := ho.left (by rw [returned]; rfl)
    rw [hconnection] at hleft
    refine ⟨List.eq_nil_iff_forall_not_mem.mpr fun j hj => ?_, fun j => hleft j, ?_⟩
    · exact hleft j ((ho.sound _ j).mp hj)
    · rw [← hconnection]
      exact ho.shut (by rw [returned]; rfl)
  · intro cue hown c hne
    have hseat := seat_step_of_ne ho.sound hown (hconnection ▸ hne)
    refine ⟨congrArg Seat.connection hseat, fun j => ?_⟩
    exact iff_of_eq (congrFun (congrArg Seat.follows hseat) j)

end Dialogue

end JobRunner.Api
