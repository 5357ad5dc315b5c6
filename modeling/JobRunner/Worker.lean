import JobRunner.Attempt
import JobRunner.Queue.Consumer

/-!
# Workers

A loop that takes jobs of one type and attempts them, as a sequence of atomic steps. A cancellation
ends a wait for a job; a job already taken is attempted to its end first. After a failed read the
worker rests for a quarter of a second. A worker whose attempt breaks off ends with it.
-/

namespace JobRunner

/-- Where a worker stands. -/
inductive WorkerStage where
  /-- About to wait for a job, or to stop. -/
  | idle
  | fetching (consumer : Consumer)
  | busy (attempt : Attempt)
  /-- Resting until `due` after a failed read. -/
  | resting (due : Nat)
  | stopped

/-- A loop that attempts the jobs of one type. -/
structure Worker where
  jobType : String
  backoff : Backoff
  stage : WorkerStage

namespace Worker

/-- The rest after a failed read in milliseconds. -/
def readErrorRest : Nat := 250

/-- A worker that has not begun. -/
def new (jobType : String) (backoff : Backoff) : Worker := ⟨jobType, backoff, .idle⟩

/-- Whether the worker has ended, by itself or with a broken attempt. -/
def isStopped (w : Worker) : Bool :=
  match w.stage with
  | .stopped => true
  | .busy attempt => attempt.isBroken
  | _ => false

/-- The attempt that the worker is at. -/
def attempt? (w : Worker) : Option Attempt :=
  match w.stage with
  | .busy attempt => some attempt
  | _ => none

/-- When a waiting worker goes on at the latest. -/
def deadline? (w : Worker) : Option Nat :=
  match w.stage with
  | .fetching consumer => some consumer.deadline
  | .busy attempt => attempt.deadline?
  | .resting due => some due
  | _ => none

/-- Whether the worker cannot go on by itself at `now`. -/
def isBlocked (w : Worker) (s : Service) (now : Nat) (cancelled : Bool) : Bool :=
  match w.stage with
  | .idle => false
  | .fetching consumer =>
    match consumer.stage with
    | .done _ => false
    | _ => consumer.isBlocked s.queue now cancelled
  | .busy attempt => attempt.answer?.isNone && attempt.isBlocked now
  | .resting due => !cancelled && now < due
  | .stopped => true

/-- What a worker does with the answer to its wait for a job. -/
def receive (w : Worker) (now : Nat) : ConsumerAnswer → Worker
  | .ok (some job) => { w with stage := .busy (.new job w.backoff) }
  | .ok none => { w with stage := .idle }
  | .error _ => { w with stage := .resting (now + readErrorRest) }

/-- What a worker does after an attempt: it goes on, unless the attempt broke down. -/
def afterAttempt (w : Worker) : Except AttemptError Status → Worker
  | .error .counterOverflow => { w with stage := .stopped }
  | _ => { w with stage := .idle }

/-- One atomic step at `now`; `ringFirst` as in `Consumer.step`. -/
def step (w : Worker) (s : Service) (now : Nat) (clock : Instant) (draws : Draws)
    (cancelled ringFirst : Bool) : Worker × Service × Option RetryTimer :=
  match w.stage with
  | .idle =>
    if cancelled then ({ w with stage := .stopped }, s, none)
    else
      let (consumer, queue) := Consumer.start s.queue now w.jobType
      ({ w with stage := .fetching consumer }, { s with queue }, none)
  | .fetching consumer =>
    match consumer.stage with
    | .done answer => (w.receive now answer, s, none)
    | _ =>
      let (consumer, queue) := consumer.step s.queue now cancelled ringFirst
      ({ w with stage := .fetching consumer }, { s with queue }, none)
  | .busy attempt =>
    match attempt.answer? with
    | some answer => (w.afterAttempt answer, s, none)
    | none =>
      let (attempt, s, timer) := attempt.step s now clock draws
      ({ w with stage := .busy attempt }, s, timer)
  | .resting due =>
    if cancelled then ({ w with stage := .stopped }, s, none)
    else if due ≤ now then ({ w with stage := .idle }, s, none)
    else (w, s, none)
  | .stopped => (w, s, none)

end Worker

end JobRunner
