import JobRunner.Hub.Basic
import JobRunner.Queue.Producer

/-!
# The service

The entry point for producers, readers of results and live sessions: a queue, a hub, and the job
types that are accepted.
-/

namespace JobRunner

/-- The settings of a service. -/
structure ServiceSettings where
  queue : QueueSettings
  /-- The attempts of a job enqueued without a number of its own. -/
  defaultMaxAttempts : Int
  /-- The room of the buffer of a connection, in events. -/
  connectionBuffer : Nat
  /-- How many settled jobs keep their latest event. -/
  eventCacheCapacity : Nat
  deriving DecidableEq, Repr, Inhabited

/-- One attempt, 32 events and ten thousand settled jobs. -/
def ServiceSettings.standard : ServiceSettings := ⟨.standard, 1, 32, 10000⟩

/-- A queue and a hub. -/
structure Service where
  settings : ServiceSettings
  queue : Queue
  hub : Hub
  /-- The job types that some crew handles; while there is no crew, every type is accepted. -/
  handled : Option (Std.TreeSet String)
  deriving Inhabited

namespace Service

/-- A service over a store. -/
def ofBackend (settings : ServiceSettings) (backend : Backend) : Service where
  settings
  queue := .ofBackend settings.queue backend
  hub := .empty settings.eventCacheCapacity
  handled := none

/-- Accepts further job types, and from now on no others. -/
def accept (s : Service) (jobTypes : List String) : Service :=
  { s with handled := some ((s.handled.getD ∅).insertMany jobTypes) }

/-- Whether jobs of a type are accepted. -/
def accepts (s : Service) (jobType : String) : Bool :=
  match s.handled with
  | some known => known.contains jobType
  | none => true

/-- Replaces the backend behind the queue. -/
def setBackend (s : Service) (b : Backend) : Service :=
  { s with queue := { s.queue with backend := b } }

/-! ## Producers -/

/-- Enqueues a job of an accepted type. -/
def enqueue (s : Service) (id : JobId) (now : Instant) (request : JobRequest) :
    Except EnqueueError JobId × Service :=
  if !Text.isBlank request.jobType && !s.accepts request.jobType then
    (.error (.unknownType request.jobType), s)
  else
    let (answer, queue) := s.queue.enqueue id now request
    (answer, { s with queue })

/-- A request with the default number of attempts. -/
def request (s : Service) (jobType : String) (payload : Json) : JobRequest :=
  ⟨jobType, payload, s.settings.defaultMaxAttempts⟩

/-! ## Readers -/

/-- Looks up the result of a job. -/
def lookUp (s : Service) (id : JobId) : Except StoreError Queue.Lookup × Service :=
  let (answer, queue) := s.queue.lookUp id
  (answer, { s with queue })

/-- The number of jobs in every state. -/
def statusCounts (s : Service) : Except StoreError (List (Status × Nat)) × Service :=
  let (answer, backend) := s.queue.backend.countByStatus
  (answer, s.setBackend backend)

/-- Fills the lanes again from the store; `clock` is the time of day when a job is put back. -/
def recover (s : Service) (clock : JobId → Instant) (jobTypes : List String) :
    Except StoreError Nat × Service :=
  let (answer, queue) := Queue.recover clock jobTypes s.queue
  (answer, { s with queue })

/-! ## Sessions -/

/-- Opens a connection without subscriptions; none if the buffer set for connections is too great.
-/
def openConnection? (s : Service) : Option (ConnectionId × Service) :=
  (s.hub.openConnection? s.settings.connectionBuffer).map fun (c, hub) => (c, { s with hub })

/-- Subscribes a connection to a job; whether its latest event was replayed. -/
def subscribe (s : Service) (c : ConnectionId) (job : JobId) : Bool × Service :=
  let (replayed, hub) := s.hub.join c job
  (replayed, { s with hub })

/-- Ends a subscription; false if there is none. -/
def unsubscribe (s : Service) (c : ConnectionId) (job : JobId) : Bool × Service :=
  let (removed, hub) := s.hub.unsubscribe c job
  (removed, { s with hub })

/-- Ends all subscriptions of a connection. -/
def disconnect (s : Service) (c : ConnectionId) : Service :=
  { s with hub := (s.hub.unsubscribeAll c).2 }

/-- Opens a connection that follows a job from the start. -/
def connect? (s : Service) (job : JobId) : Option (ConnectionId × Service) :=
  s.openConnection?.map fun (c, s) => (c, (s.subscribe c job).2)

/-- Tells the followers of a job about its new status. -/
def publish (s : Service) (e : Event) : Service := { s with hub := (s.hub.publish e).2 }

end Service

end JobRunner
