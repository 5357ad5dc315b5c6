import JobRunner.Api.Session
import JobRunner.Handler.Call
import JobRunner.Worker

/-!
# The machine

A service with everything that is at work on it, under a clock that is moved by hand.

- `Task`: one activity: a consumer, an attempt, a worker, a call of a handler, a retry timer, or one
  of the two loops of a live session.
- `Machine`: the service, the crews and sessions, and the tasks, those that can go on in the order
  in which they will.
-/

namespace JobRunner

/-- The identifier of a crew. -/
abbrev CrewId := Nat

/-- The identifier of a switch that stops tasks. -/
abbrev SwitchId := Nat

/-- The identifier of a session. -/
abbrev SessionId := Nat

/-- The identifier of a task. -/
abbrev TaskId := Nat

/-- Handlers at work, and how jobs are attempted with them. -/
structure Crew where
  stations : Std.TreeMap String Station
  workersPerType : Nat
  backoff : Backoff
  deriving Inhabited

namespace Crew

/-- A crew with handlers that have not been called. -/
def ofHandlers (handlers : Handlers) (workersPerType : Nat) (backoff : Backoff) : Crew :=
  ⟨.ofList (handlers.toList.map fun (jobType, h) => (jobType, Station.ofHandler h)), workersPerType,
    backoff⟩

/-- The job types that the crew handles, sorted. -/
def jobTypes (c : Crew) : List String := c.stations.keys

/-- The handler of a job type at work. -/
def station? (c : Crew) (jobType : String) : Option Station := c.stations[jobType]?

/-- Puts a station in its place. -/
def setStation (c : Crew) (jobType : String) (s : Station) : Crew :=
  { c with stations := c.stations.insert jobType s }

/-- The workers of a crew: for every type as many as set, at least one. -/
def workers (c : Crew) : List Worker :=
  c.jobTypes.flatMap fun jobType =>
    List.replicate (max c.workersPerType 1) (.new jobType c.backoff)

end Crew

/-- What a task does. -/
inductive Activity where
  | consumer (consumer : Consumer)
  | attempt (attempt : Attempt)
  | worker (worker : Worker)
  | call (call : Call)
  | timer (timer : RetryTimer)
  | reader (session : SessionId)
  | writer (session : SessionId)

/-- An activity under the machine. -/
structure Task where
  activity : Activity
  /-- The crew whose handlers it calls. -/
  crew : CrewId
  /-- The switch that stops it. -/
  switch : SwitchId
  /-- The call of a handler that it waits for. -/
  awaited : Option TaskId

namespace Task

/-- The attempt of a task that waits for its handler. -/
def calling? (t : Task) : Option Attempt :=
  match t.activity with
  | .attempt a => if a.isCalling then some a else none
  | .worker w => w.attempt?.filter (·.isCalling)
  | _ => none

/-- Replaces the attempt of a task. -/
def setAttempt (t : Task) (a : Attempt) : Task :=
  match t.activity with
  | .attempt _ => { t with activity := .attempt a }
  | .worker w => { t with activity := .worker { w with stage := .busy a } }
  | _ => t

/-- The moment at which a waiting task goes on at the latest. -/
def deadline? (t : Task) : Option Nat :=
  match t.activity with
  | .consumer c => some c.deadline
  | .attempt a => a.deadline?
  | .worker w => w.deadline?
  | .call c => c.deadline?
  | .timer t => some t.due
  | .reader _ | .writer _ => none

end Task

/-- A service and what is at work on it. -/
structure Machine where
  service : Service
  /-- Milliseconds since the start. -/
  now : Nat
  /-- Readings of the time of day so far. -/
  readings : Nat
  /-- Random numbers for jitter. -/
  draws : Draws
  /-- The crews in the order of their identifiers. -/
  crews : Array Crew
  /-- The sessions in the order of their identifiers. -/
  sessions : Array Api.Session
  /-- All tasks, also those that are over, in the order of their identifiers. -/
  tasks : Array Task
  /-- The tasks that can go on, the next one first. -/
  ready : List TaskId
  /-- The tasks that wait, the one that has waited longest first. -/
  waiting : List TaskId
  /-- When tasks were over. -/
  ends : Std.TreeMap TaskId Nat
  /-- The switches that have been thrown. -/
  thrown : Std.TreeSet SwitchId
  nextSwitch : SwitchId
  deriving Inhabited

namespace Machine

/-- A machine at rest. -/
def ofService (service : Service) : Machine where
  service
  now := 0
  readings := 0
  draws := .ofList [0x8000000000000000]
  crews := #[]
  sessions := #[]
  tasks := #[]
  ready := []
  waiting := []
  ends := ∅
  thrown := ∅
  nextSwitch := 0

/-- The time of day, a nanosecond later at every reading. -/
def clock (m : Machine) : Instant := ⟨1735689600 + m.readings / 1000000000, m.readings % 1000000000⟩

/-- Counts a reading of the time of day. -/
def tick (m : Machine) : Machine := { m with readings := m.readings + 1 }

/-- Whether a switch has been thrown. -/
def isThrown (m : Machine) (switch : SwitchId) : Bool := m.thrown.contains switch

/-- A crew. -/
def crew (m : Machine) (crew : CrewId) : Crew := m.crews.getD crew default

/-- A session. -/
def session (m : Machine) (session : SessionId) : Api.Session := m.sessions.getD session default

/-- How a call of a handler ended, if it has. -/
def ending? (m : Machine) (task : TaskId) : Option Ending :=
  match m.tasks[task]? with
  | some ⟨.call c, _, _, _⟩ => c.ending?
  | _ => none

/-- How an attempt ended, if it has. -/
def attemptAnswer? (m : Machine) (task : TaskId) : Option (Except AttemptError Status) :=
  match m.tasks[task]? with
  | some ⟨.attempt a, _, _, _⟩ => a.answer?
  | _ => none

/-- What a consumer was answered, if it is done. -/
def consumerAnswer? (m : Machine) (task : TaskId) : Option ConsumerAnswer :=
  match m.tasks[task]? with
  | some ⟨.consumer c, _, _, _⟩ => c.answer?
  | _ => none

/-- Adds a task behind those that can go on. -/
def spawn (m : Machine) (task : Task) : TaskId × Machine :=
  (m.tasks.size, { m with tasks := m.tasks.push task, ready := m.ready ++ [m.tasks.size] })

/-- Adds a task before those that can go on. -/
def spawnFirst (m : Machine) (task : Task) : TaskId × Machine :=
  (m.tasks.size, { m with tasks := m.tasks.push task, ready := m.tasks.size :: m.ready })

/-- Replaces a task. -/
def setTask (m : Machine) (id : TaskId) (task : Task) : Machine :=
  { m with tasks := m.tasks.setIfInBounds id task }

/-! ## Waiting -/

/-- Whether a task is over. -/
def isOver (m : Machine) (t : Task) : Bool :=
  match t.activity with
  | .consumer c => c.answer?.isSome
  | .attempt a => a.isOver
  | .worker w => w.isStopped
  | .call c => c.ending?.isSome
  | .timer t => t.isOver
  | .reader x => !(m.session x).reading
  | .writer x => !(m.session x).writing

/-- Whether a task has to wait. -/
def isBlocked (m : Machine) (t : Task) : Bool :=
  match t.calling? with
  | some _ => t.awaited.any fun call => (m.ending? call).isNone
  | none =>
    match t.activity with
    | .consumer c => c.isBlocked m.service.queue m.now (m.isThrown t.switch)
    | .attempt a => a.isBlocked m.now
    | .worker w => w.isBlocked m.service m.now (m.isThrown t.switch)
    | .call c => ((m.crew t.crew).station? c.job.jobType).any (c.isBlocked · m.now)
    | .timer t => t.isBlocked m.now
    | .reader x => (m.session x).isReadBlocked m.service
    | .writer x => (m.session x).isWriteBlocked m.service

/-- Lets the waiting tasks that need not wait any more go on. -/
def wake (m : Machine) : Machine :=
  let free (id : TaskId) : Bool := m.tasks[id]?.any (!m.isBlocked ·)
  if m.waiting.any free then
    { m with
      ready := m.ready ++ m.waiting.filter free
      waiting := m.waiting.filter (!free ·) }
  else m

end Machine

end JobRunner
