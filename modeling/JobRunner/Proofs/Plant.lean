import JobRunner.Proofs.Copies
import JobRunner.Queue.Producer
import JobRunner.Worker

/-!
# A service at work, under any schedule

- `Actor`: one activity: a call that enqueues a job, a worker, or a retry timer.
- `Plant`: a service with everything that is at work on it, and a journal of what happened to jobs.
- `Action`: one atomic step of an activity, the end of a call of a handler, or something from
  outside: a new activity, a change of which store calls fail, a session's use of the hub.
- `Plant.run`: any actions in any order. Time, time of day, random numbers, cancellation and which
  of two signals a waiting call takes notice of are chosen anew for every step.
- `Plant.Owns`: who has a job in its hands and will go on with it.
- `Plant.Strands`: who has broken off with a job, so that nobody will go on with it.
-/

namespace JobRunner

/-! ## Activities -/

/-- What a step is given from outside. -/
structure Tick where
  now : Nat
  clock : Instant
  draws : Draws
  cancelled : Bool
  /-- Whether a waiting call takes notice of a ring first, though its wait is over. -/
  ringFirst : Bool

/-- One activity. -/
inductive Actor where
  | producer (producer : Producer)
  | worker (worker : Worker)
  | timer (timer : RetryTimer)

/-- The id that a consumer has taken from its lane, until its job is attempted. -/
def Consumer.carries? (c : Consumer) : Option JobId :=
  match c.stage with
  | .reading _ id | .restoring _ id _ => some id
  | .leaving _ (.ok (some job)) | .done (.ok (some job)) => some job.id
  | _ => none

namespace Actor

/-- The job that an activity carries to or from a lane. -/
def carries? : Actor → Option JobId
  | producer (.pushing job) => some job.id
  | worker ⟨_, _, .fetching consumer⟩ => consumer.carries?
  | timer ⟨job, _, .sleeping⟩ => some job.id
  | _ => none

/-- The attempt that an activity makes of a job in its hands. -/
def attempt? : Actor → Option Attempt
  | worker ⟨_, _, .busy attempt⟩ => if attempt.owns then some attempt else none
  | _ => none

/-- The job that an activity has in its hands. -/
def holds? (x : Actor) : Option JobId :=
  match x.attempt? with
  | some a => some a.job.id
  | none => x.carries?

/-- The job that an activity has broken off with. -/
def strands? : Actor → Option JobId
  | worker ⟨_, _, .busy attempt⟩ => if attempt.isBroken then some attempt.job.id else none
  | _ => none

/-- The job that an activity has in its hands and will go on with. -/
def owns? (x : Actor) : Option JobId := if x.strands? = none then x.holds? else none

/-- The job whose handler an activity is executing. -/
def executes? : Actor → Option JobId
  | worker ⟨_, _, .busy attempt⟩ => if attempt.isCalling then some attempt.job.id else none
  | _ => none

/-- One atomic step. -/
def step (x : Actor) (s : Service) (t : Tick) : Actor × Service × Option RetryTimer :=
  match x with
  | producer p => (producer (p.step s.queue).1, { s with queue := (p.step s.queue).2 }, none)
  | worker w =>
    let (w, s, added) := w.step s t.now t.clock t.draws t.cancelled t.ringFirst
    (worker w, s, added)
  | timer r => (timer (r.step s.queue t.now).1, { s with queue := (r.step s.queue t.now).2 }, none)

/-- What the next step does to a job. -/
def entries (x : Actor) (s : Service) (t : Tick) : List Entry :=
  match x with
  | producer (.inserting job) =>
    match (s.queue.backend.insertJob job).1 with
    | .ok () => [.inserted job]
    | .error _ => []
  | worker ⟨_, _, .busy attempt⟩ => attempt.entries s t.clock
  | _ => []

/-- The handler of an activity has come to an end. -/
def report (x : Actor) (clock : Instant) (report : Except Failure Json) : Actor :=
  match x with
  | worker ⟨jobType, b, .busy attempt⟩ =>
    if attempt.isCalling then worker ⟨jobType, b, .busy (attempt.report clock report)⟩ else x
  | _ => x

/-- What the end of a handler is for its job. -/
def reportEntries (x : Actor) (report : Except Failure Json) : List Entry :=
  match x.executes? with
  | some id => [.reported id report]
  | none => []

end Actor

/-! ## Sessions -/

/-- What sessions and their clients do to the hub. -/
inductive Visit where
  | openConnection (room : Nat)
  | join (c : ConnectionId) (job : JobId)
  | unsubscribe (c : ConnectionId) (job : JobId)
  | disconnect (c : ConnectionId)
  | take (c : ConnectionId) (most : Nat)
  | close (c : ConnectionId)
  | abandon (c : ConnectionId)

/-- What a visit leaves behind. -/
def Visit.act (h : Hub) : Visit → Hub
  | openConnection room => (h.openConnection room).2
  | join c job => (h.join c job).2
  | unsubscribe c job => (h.unsubscribe c job).2
  | disconnect c => (h.unsubscribeAll c).2
  | take c most => (h.take c most).2
  | close c => h.close c
  | abandon c => h.abandon c

/-! ## Plants -/

/-- A service with everything that is at work on it. -/
structure Plant where
  service : Service
  actors : List Actor
  /-- What happened to jobs so far. `Plant.Orderly.journal_step` says that it tells all that is done
  to the store, and all that is published. -/
  journal : List Entry

/-- One thing that happens in a plant. -/
inductive Action where
  /-- A call that enqueues a job begins. -/
  | enqueue (id : JobId) (now : Instant) (request : JobRequest)
      (countable : request.maxAttempts ≤ Job.greatestCount)
  /-- A worker begins. -/
  | hire (jobType : String) (backoff : Backoff)
  /-- An activity takes a step. -/
  | advance (actor : Nat) (tick : Tick)
  /-- The handler that an activity has called comes to an end. -/
  | report (actor : Nat) (clock : Instant) (report : Except Failure Json)
  /-- From now on other store calls of a kind fail. -/
  | plan (call : StoreCall) (failures : List Bool)
  | visit (visit : Visit)

namespace Plant

/-- An empty service with nobody at work. -/
def new (settings : ServiceSettings) : Plant := ⟨.ofBackend settings .empty, [], []⟩

/-- An activity has come to a new state, and perhaps left a timer. -/
def replace (p : Plant) (i : Nat) (x : Actor) (service : Service) (added : Option RetryTimer)
    (es : List Entry) : Plant where
  service
  actors := p.actors.set i x ++ (added.map Actor.timer).toList
  journal := p.journal ++ es

/-- Something happens. -/
def step (p : Plant) : Action → Plant
  | .enqueue id now request _ =>
    { p with actors := p.actors ++ [.producer (.checking id now request)] }
  | .hire jobType backoff => { p with actors := p.actors ++ [.worker (.new jobType backoff)] }
  | .advance i t =>
    match p.actors[i]? with
    | some x =>
      let (x', service, added) := x.step p.service t
      p.replace i x' service added (x.entries p.service t)
    | none => p
  | .report i clock report =>
    match p.actors[i]? with
    | some x => p.replace i (x.report clock report) p.service none (x.reportEntries report)
    | none => p
  | .plan call failures =>
    { p with service := p.service.setBackend (p.service.queue.backend.setPlan call failures) }
  | .visit visit => { p with service := { p.service with hub := visit.act p.service.hub } }

/-- Some things happen, one after the other. -/
def run (p : Plant) (actions : List Action) : Plant := actions.foldl step p

/-- The record of a job. -/
def record? (p : Plant) (id : JobId) : Option Job := p.service.store.job? id

/-- The outcome of a job. -/
def outcome? (p : Plant) (id : JobId) : Option Outcome := p.service.store.outcome? id

/-- The ids that wait in the lane of a type. -/
def waiting (p : Plant) (jobType : String) : List JobId := (p.service.queue.lane jobType).ids

/-- What happened to one job so far. -/
def history (p : Plant) (id : JobId) : List Entry := p.journal.filter (·.jobId = id)

/-! ## Owners -/

/-- Who can own a job: one of the activities, or a place in a lane. -/
inductive Owner where
  | actor (index : Nat)
  | place (jobType : String) (position : Nat)
  deriving DecidableEq

/-- Someone has a job in its hands and will go on with it. -/
def Owns (p : Plant) : Owner → JobId → Prop
  | .actor i, id => p.actors[i]?.bind Actor.owns? = some id
  | .place t k, id => (p.waiting t)[k]? = some id

/-- An activity has broken off with a job. -/
def Strands (p : Plant) (i : Nat) (id : JobId) : Prop :=
  p.actors[i]?.bind Actor.strands? = some id

/-- An activity is executing the handler of a job. -/
def Executes (p : Plant) (i : Nat) (id : JobId) : Prop :=
  p.actors[i]?.bind Actor.executes? = some id

end Plant

end JobRunner
