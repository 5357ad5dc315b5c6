import JobRunner.Api.Form
import JobRunner.Service

/-!
# Live sessions

A client that follows jobs over a connection of its own. Two loops serve it, each a sequence of
atomic steps.

- `Session.read`: obeys what the client sends. The session ends when the client leaves or the
  connection is closed; then all subscriptions end.
- `Session.write`: sends the events of the connection to the client, in their order.
-/

namespace JobRunner.Api

/-- What a client sends. -/
inductive ClientMessage where
  | text (content : String)
  | binary
  | ping
  | close
  deriving DecidableEq, Repr

/-- What a client is sent. -/
inductive ServerMessage where
  | event (e : Event)
  | pong
  | close
  deriving Repr

/-- A live session. -/
structure Session where
  connection : ConnectionId
  /-- The messages of the client that have not been read. -/
  inbox : List ClientMessage
  /-- The messages for the client that it has not taken. -/
  outbox : List ServerMessage
  /-- Whether the client is still there. -/
  attended : Bool
  /-- Whether messages of the client are still read. -/
  reading : Bool
  /-- Whether events are still written to the client. -/
  writing : Bool
  deriving Inhabited

namespace Session

/-- A session over a connection. -/
def new (connection : ConnectionId) : Session := ⟨connection, [], [], true, true, true⟩

/-- A session for which there was no connection: nobody reads or writes, and the client is alone. -/
def unserved : Session := ⟨0, [], [], false, false, false⟩

/-- Opens a session that follows a job, or none. -/
def start (s : Service) (job : Option JobId) : Session × Service :=
  let opened := match job with
    | some job => s.connect? job
    | none => s.openConnection?
  match opened with
  | some (connection, s) => (new connection, s)
  | none => (unserved, s)

/-! ## The client's side -/

/-- The client sends a message. -/
def receive (x : Session) (m : ClientMessage) : Session := { x with inbox := x.inbox ++ [m] }

/-- The client leaves without a word. -/
def abandon (x : Session) : Session := { x with attended := false, outbox := [] }

/-- The client takes the messages sent to it. -/
def takeAll (x : Session) : List ServerMessage × Session := (x.outbox, { x with outbox := [] })

/-! ## Reading -/

/-- Sends a message to the client, if it is still there. -/
def send (x : Session) (m : ServerMessage) : Session :=
  if x.attended then { x with outbox := x.outbox ++ [m] } else x

/-- Whether the connection has been asked to hang up. -/
def isHungUp (x : Session) (s : Service) : Bool := (s.hub.connection x.connection).closed

/-- Obeys a text of the client; one that is no command is ignored. -/
def obey (x : Session) (s : Service) (text : String) : Service :=
  match Command.parse? text with
  | some (.subscribe job) => (s.subscribe x.connection job).2
  | some (.unsubscribe job) => (s.unsubscribe x.connection job).2
  | none => s

/-- Ends the session. -/
def finish (x : Session) (s : Service) : Session × Service :=
  let s := s.disconnect x.connection
  ({ x with reading := false }, { s with hub := s.hub.close x.connection })

/-- Whether there is nothing to read. -/
def isReadBlocked (x : Session) (s : Service) : Bool :=
  !x.reading || (!x.isHungUp s && x.inbox.isEmpty && x.attended)

/-- Reads one message of the client. -/
def read (x : Session) (s : Service) : Session × Service :=
  if !x.reading then (x, s)
  else if x.isHungUp s then x.finish s
  else
    match x.inbox with
    | .text content :: inbox => ({ x with inbox }, x.obey s content)
    | .binary :: inbox => ({ x with inbox }, s)
    | .ping :: inbox => ({ x with inbox }.send .pong, s)
    | .close :: inbox => ({ x with inbox }.abandon).finish s
    | [] => if x.attended then (x, s) else x.finish s

/-! ## Writing -/

/-- Stops writing; the events left in the buffer are lost. -/
def stopWriting (x : Session) (s : Service) : Session × Service :=
  ({ x with writing := false }, { s with hub := s.hub.abandon x.connection })

/-- Whether there is nothing to write. -/
def isWriteBlocked (x : Session) (s : Service) : Bool :=
  !x.writing || (!x.isHungUp s && (s.hub.connection x.connection).buffer.isEmpty)

/-- Writes one event to the client, or takes leave of it. -/
def write (x : Session) (s : Service) : Session × Service :=
  if !x.writing then (x, s)
  else if x.isHungUp s then (x.send .close).stopWriting s
  else
    match s.hub.take x.connection 1 with
    | (e :: _, hub) =>
      let s := { s with hub }
      if x.attended then (x.send (.event e), s) else x.stopWriting s
    | ([], _) => (x, s)

end Session

end JobRunner.Api
