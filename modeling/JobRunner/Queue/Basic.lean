import JobRunner.Lane.Basic
import JobRunner.Store.Backend

/-!
# The queue

The store of the jobs, and a lane for every job type that has been asked for.

- `Queue.append`: makes a stored job visible to the consumers of its type.
- `Queue.lookUp`: what is known about the result of a job.
- `Queue.recover`: fills the lanes again from the store after a restart.

The record of a job is stored before its id enters a lane, so an id taken from a lane has a record.
-/

namespace JobRunner

/-- The limits of a queue. -/
structure QueueSettings where
  /-- The longest wait for a job in milliseconds. -/
  pollTimeout : Nat
  /-- The greatest length of the compact text of a payload in bytes. -/
  maxPayloadBytes : Nat
  deriving DecidableEq, Repr, Inhabited

/-- Five seconds and 256 kilobytes. -/
def QueueSettings.standard : QueueSettings := ⟨5000, 262144⟩

/-- The store and the lanes. -/
structure Queue where
  settings : QueueSettings
  backend : Backend
  lanes : Std.TreeMap String Lane
  deriving Inhabited

namespace Queue

/-- A queue over a store, without lanes. -/
def ofBackend (settings : QueueSettings) (backend : Backend) : Queue := ⟨settings, backend, ∅⟩

/-- The lane of a type; an empty one if there is none yet. -/
def lane (q : Queue) (jobType : String) : Lane := q.lanes.getD jobType .empty

/-- Puts a lane in its place. -/
def setLane (q : Queue) (jobType : String) (l : Lane) : Queue :=
  { q with lanes := q.lanes.insert jobType l }

/-- Makes sure that there is a lane for a type. -/
def openLane (q : Queue) (jobType : String) : Queue := q.setLane jobType (q.lane jobType)

/-- Rings the bell of a lane. -/
def ring (q : Queue) (jobType : String) : Queue := q.setLane jobType (q.lane jobType).ring

/-- Puts an id at the back of a lane, without ringing; false if it waits there already. -/
def push (q : Queue) (jobType : String) (id : JobId) : Bool × Queue :=
  let (added, l) := (q.lane jobType).pushBack id
  (added, q.setLane jobType l)

/-- Puts an id at the back of a lane and rings if it did not wait there. -/
def append (q : Queue) (jobType : String) (id : JobId) : Bool × Queue :=
  let (added, q) := q.push jobType id
  (added, if added then q.ring jobType else q)

/-- Makes a stored job visible again; false if it waits already. -/
def requeue (q : Queue) (job : Job) : Bool × Queue := q.append job.jobType job.id

/-- The number of jobs that wait in a lane. -/
def depth (q : Queue) (jobType : String) : Nat := (q.lane jobType).depth

/-- All lanes with their depths, by type. -/
def depths (q : Queue) : List (String × Nat) := q.lanes.toList.map fun (t, l) => (t, l.depth)

/-! ## Results -/

/-- What is known about the result of a job. -/
inductive Lookup where
  | notFound
  /-- No final outcome yet. -/
  | pending (status : Status)
  | ready (outcome : Outcome)
  deriving Repr

/-- Looks up the result of a job: its status first, and its outcome only if that is final. -/
def lookUp (q : Queue) (id : JobId) : Except StoreError Lookup × Queue :=
  match q.backend.getJob id with
  | (.error e, b) => (.error e, { q with backend := b })
  | (.ok none, b) => (.ok .notFound, { q with backend := b })
  | (.ok (some job), b) =>
    if job.status.isTerminal then
      match b.getResult id with
      | (.error e, b) => (.error e, { q with backend := b })
      | (.ok (some outcome), b) => (.ok (.ready outcome), { q with backend := b })
      | (.ok none, b) => (.ok (.pending job.status), { q with backend := b })
    else (.ok (.pending job.status), { q with backend := b })

/-! ## Recovery -/

/-- Marks jobs as retrying, up to the first one that cannot be written; `clock` is the time of day
when it comes to a job. -/
def revive (clock : JobId → Instant) : List Job → Queue → Except StoreError Unit × Queue
  | [], q => (.ok (), q)
  | job :: jobs, q =>
    match q.backend.updateJob { job with status := .retrying, updatedAt := clock job.id } with
    | (.error e, b) => (.error e, { q with backend := b })
    | (.ok (), b) => revive clock jobs { q with backend := b }

/-- Appends the runnable ones of some jobs to their lanes; answers with the number of those that did
not wait there. -/
def appendRunnable : List Job → Queue → Nat × Queue
  | [], q => (0, q)
  | job :: jobs, q =>
    if job.status.isRunnable then
      let (added, q) := q.requeue job
      let (n, q) := appendRunnable jobs q
      (if added then n + 1 else n, q)
    else appendRunnable jobs q

/-- Recovers the jobs of one type: those left processing are marked as retrying, then all runnable
ones are appended, the oldest first. -/
def recoverType (clock : JobId → Instant) (jobType : String) (q : Queue) :
    Except StoreError Nat × Queue :=
  match q.backend.listByType jobType (some .processing) with
  | (.error e, b) => (.error e, { q with backend := b })
  | (.ok orphans, b) =>
    match revive clock orphans { q with backend := b } with
    | (.error e, q) => (.error e, q)
    | (.ok (), q) =>
      match q.backend.listByType jobType none with
      | (.error e, b) => (.error e, { q with backend := b })
      | (.ok jobs, b) =>
        let (n, q) := appendRunnable jobs { q with backend := b }
        (.ok n, q)

/-- Recovers the jobs of several types one after the other, up to the first failing call; answers
with the number of ids appended. No worker may run before it is done. -/
def recover (clock : JobId → Instant) : List String → Queue → Except StoreError Nat × Queue
  | [], q => (.ok 0, q)
  | jobType :: jobTypes, q =>
    match recoverType clock jobType q with
    | (.error e, q) => (.error e, q)
    | (.ok n, q) =>
      match recover clock jobTypes q with
      | (.error e, q) => (.error e, q)
      | (.ok m, q) => (.ok (n + m), q)

end Queue

end JobRunner
