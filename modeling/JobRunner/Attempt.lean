import JobRunner.Backoff
import JobRunner.Handler.Basic
import JobRunner.Service

/-!
# Attempts

One attempt of a job, from the claim to its outcome, as a sequence of atomic steps.

1. The job is written as processing, and that is published.
2. Its handler is called.
3. The outcome is written: first the result, then the status, so that a final status always has a
   result. Both writes are tried again after a short rest, four times in all.
4. The outcome is published. If it could not be written, a failure that says so is published, and
   the record stays processing.
5. After a failure that may be retried, the job is written and published as retrying and goes back
   to its lane, at once or by a timer. If no delay can be drawn, the attempt breaks off there.

Every status is published once, after it has been written.
-/

namespace JobRunner

/-- Why an attempt is broken off. -/
inductive AttemptError where
  | store (why : StoreError)
  | transition (why : Job.InvalidTransition)
  /-- The counter of attempts is at its end. -/
  | counterOverflow
  deriving DecidableEq, Repr

/-- The wording of an attempt that is broken off. -/
def AttemptError.message : AttemptError → String
  | store why => why.message
  | transition why => why.message
  | counterOverflow => "attempt to add with overflow"

/-- A job on its way back to its lane. -/
inductive TimerStage where
  | sleeping
  | ringing
  | done
  deriving DecidableEq, Repr

/-- A timer that puts a job back into its lane when it is due. -/
structure RetryTimer where
  job : Job
  due : Nat
  stage : TimerStage

namespace RetryTimer

/-- Whether the timer has to wait at `now`. -/
def isBlocked (t : RetryTimer) (now : Nat) : Bool :=
  match t.stage with
  | .sleeping => now < t.due
  | .ringing => false
  | .done => true

/-- Whether the timer has done its work. -/
def isOver (t : RetryTimer) : Bool := t.stage == .done

/-- One atomic step. -/
def step (t : RetryTimer) (q : Queue) (now : Nat) : RetryTimer × Queue :=
  match t.stage with
  | .sleeping =>
    if t.due ≤ now then
      let (added, q) := q.push t.job.jobType t.job.id
      ({ t with stage := if added then .ringing else .done }, q)
    else (t, q)
  | .ringing => ({ t with stage := .done }, q.ring t.job.jobType)
  | .done => (t, q)

end RetryTimer

/-- Where an attempt stands. The job that goes with it is the attempt's own copy. -/
inductive AttemptStage where
  /-- About to write the job as processing. -/
  | claiming
  /-- About to put the job back, which could not be written as processing. -/
  | handingBack (why : StoreError)
  /-- About to ring for a job put back. -/
  | ringingBack (why : StoreError)
  /-- About to publish that the job is processing. -/
  | announcing
  /-- The handler is called. -/
  | calling
  /-- About to write the result; `tries` writes of the outcome have failed. -/
  | recording (report : Except Failure Json) (outcome : Outcome) (tries : Nat)
  /-- About to write the final status. -/
  | concluding (report : Except Failure Json) (outcome : Outcome) (tries : Nat)
  /-- Resting until `due`, when the outcome is tried again. -/
  | resting (report : Except Failure Json) (outcome : Outcome) (tries : Nat) (due : Nat)
  /-- About to publish the outcome. -/
  | publishing (report : Except Failure Json)
  /-- About to publish that the outcome could not be written. -/
  | abandoning (why : StoreError)
  /-- About to write the job as retrying. -/
  | rescheduling (why : Failure)
  /-- About to publish that the job is retrying. -/
  | announcingRetry (why : Failure)
  /-- About to bring the job back to its lane. -/
  | handingOff
  /-- About to ring for the job brought back. -/
  | ringingOff
  /-- Broken off where a delay was to be drawn and could not be. No answer will come. -/
  | broken
  | done (answer : Except AttemptError Status)

/-- One attempt of a job. -/
structure Attempt where
  /-- The attempt's own copy of the job. -/
  job : Job
  /-- The rule of the delay before the next attempt. -/
  backoff : Backoff
  stage : AttemptStage

namespace Attempt

/-- How often the outcome is written before the attempt gives up. -/
def outcomeTries : Nat := 4

/-- The rule of the rests between these writes. -/
def outcomeBackoff : Backoff := ⟨.ofMillis 50, .ofSeconds 1, 0.2⟩

/-- An attempt of a job as it was handed out. -/
def new (job : Job) (backoff : Backoff) : Attempt := ⟨job, backoff, .claiming⟩

/-- The answer of an attempt that is over. -/
def answer? (a : Attempt) : Option (Except AttemptError Status) :=
  match a.stage with
  | .done answer => some answer
  | _ => none

/-- Whether the attempt cannot go on by itself at `now`. -/
def isBlocked (a : Attempt) (now : Nat) : Bool :=
  match a.stage with
  | .calling => true
  | .resting _ _ _ due => now < due
  | .broken => true
  | .done _ => true
  | _ => false

/-- Whether the attempt has broken off. -/
def isBroken (a : Attempt) : Bool :=
  match a.stage with
  | .broken => true
  | _ => false

/-- Whether the attempt goes no further: it has its answer, or has broken off. -/
def isOver (a : Attempt) : Bool := a.answer?.isSome || a.isBroken

/-- Whether the attempt waits for its handler. -/
def isCalling (a : Attempt) : Bool :=
  match a.stage with
  | .calling => true
  | _ => false

/-- When a resting attempt goes on. -/
def deadline? (a : Attempt) : Option Nat :=
  match a.stage with
  | .resting _ _ _ due => some due
  | _ => none

/-- The attempt ends with this answer. -/
def finish (a : Attempt) (answer : Except AttemptError Status) : Attempt :=
  { a with stage := .done answer }

/-- The result of a job that a report makes. -/
def outcomeOf (job : Job) (now : Instant) : Except Failure Json → Outcome
  | .ok value => .completed job.id value now
  | .error why => .failed job.id why.message now

/-- The handler has reported. -/
def report (a : Attempt) (now : Instant) (report : Except Failure Json) : Attempt :=
  let outcome := outcomeOf a.job now report
  match a.job.advance now outcome.status with
  | .ok job => { a with job, stage := .recording report outcome 0 }
  | .error why => a.finish (.error (.transition why))

/-- The event that publishes a report. -/
def reportEvent (job : Job) : Except Failure Json → Event
  | .ok value => .ofStatus job.id .completed (some value) none
  | .error why => .ofStatus job.id .failed none (some why.message)

/-- The event that publishes an outcome that could not be written. -/
def abandonEvent (job : Job) (why : StoreError) : Event :=
  .ofStatus job.id .failed none (some ("failed to record outcome: " ++ why.message))

/-- A write of the outcome has failed: the attempt rests, or gives up after the last one. -/
def retryWrite (a : Attempt) (now : Nat) (draws : Draws) (report : Except Failure Json)
    (outcome : Outcome) (tries : Nat) (why : StoreError) : Attempt :=
  let tries := tries + 1
  if tries < outcomeTries then
    match outcomeBackoff.delay tries draws with
    | some (rest, _) => { a with stage := .resting report outcome tries (now + rest) }
    | none => { a with stage := .broken }
  else { a with stage := .abandoning why }

/-- What a step leads to: the attempt, the service, and a timer that begins to run, if any. -/
abbrev Step := Attempt × Service × Option RetryTimer

/-- Writes the job as processing, with one attempt more. -/
def claim (a : Attempt) (s : Service) (now : Instant) : Attempt × Service :=
  match a.job.advance now .processing with
  | .error why => (a.finish (.error (.transition why)), s)
  | .ok job =>
    if job.attempts = 0x7FFFFFFF then (a.finish (.error .counterOverflow), s)
    else
      let job := { job with attempts := job.attempts + 1 }
      match s.queue.backend.updateJob job with
      | (.error why, b) => ({ a with job, stage := .handingBack why }, s.setBackend b)
      | (.ok (), b) => ({ a with job, stage := .announcing }, s.setBackend b)

/-- Writes the job as retrying; if that fails, the job simply stays failed. -/
def reschedule (a : Attempt) (s : Service) (now : Instant) (why : Failure) : Attempt × Service :=
  match a.job.advance now .retrying with
  | .error why => (a.finish (.error (.transition why)), s)
  | .ok job =>
    match s.queue.backend.updateJob job with
    | (.error e, b) => ({ a with job }.finish (.error (.store e)), s.setBackend b)
    | (.ok (), b) => ({ a with job, stage := .announcingRetry why }, s.setBackend b)

/-- Puts the job into its lane at once, or starts a timer that will. Without a delay the attempt
breaks off, and nobody has the job any more. -/
def handOff (a : Attempt) (s : Service) (now : Nat) (draws : Draws) : Step :=
  match a.backoff.delay a.job.attempts draws with
  | none => ({ a with stage := .broken }, s, none)
  | some (0, _) =>
    let (added, queue) := s.queue.push a.job.jobType a.job.id
    (if added then { a with stage := .ringingOff } else a.finish (.ok .retrying),
      { s with queue }, none)
  | some (delay, _) => (a.finish (.ok .retrying), s, some ⟨a.job, now + delay, .sleeping⟩)

/-- One atomic step at `now`; `clock` is the time of day, and `draws` the source of jitter. -/
def step (a : Attempt) (s : Service) (now : Nat) (clock : Instant) (draws : Draws) : Step :=
  match a.stage with
  | .claiming =>
    let (a, s) := a.claim s clock
    (a, s, none)
  | .handingBack why =>
    let (added, queue) := s.queue.push a.job.jobType a.job.id
    (if added then { a with stage := .ringingBack why } else a.finish (.error (.store why)),
      { s with queue }, none)
  | .ringingBack why =>
    (a.finish (.error (.store why)), { s with queue := s.queue.ring a.job.jobType }, none)
  | .announcing =>
    ({ a with stage := .calling }, s.publish (.ofStatus a.job.id .processing none none), none)
  | .calling => (a, s, none)
  | .recording report outcome tries =>
    match s.queue.backend.putResult outcome with
    | (.error why, b) => (a.retryWrite now draws report outcome tries why, s.setBackend b, none)
    | (.ok (), b) => ({ a with stage := .concluding report outcome tries }, s.setBackend b, none)
  | .concluding report outcome tries =>
    match s.queue.backend.updateJob a.job with
    | (.error why, b) => (a.retryWrite now draws report outcome tries why, s.setBackend b, none)
    | (.ok (), b) => ({ a with stage := .publishing report }, s.setBackend b, none)
  | .resting report outcome tries due =>
    (if due ≤ now then { a with stage := .recording report outcome tries } else a, s, none)
  | .publishing report =>
    let s := s.publish (reportEvent a.job report)
    match report with
    | .ok _ => (a.finish (.ok .completed), s, none)
    | .error why =>
      (if a.job.shouldRetry why then { a with stage := .rescheduling why }
        else a.finish (.ok .failed), s, none)
  | .abandoning why =>
    (a.finish (.error (.store why)), s.publish (abandonEvent a.job why), none)
  | .rescheduling why =>
    let (a, s) := a.reschedule s clock why
    (a, s, none)
  | .announcingRetry why =>
    ({ a with stage := .handingOff },
      s.publish (.ofStatus a.job.id .retrying none (some why.message)), none)
  | .handingOff => a.handOff s now draws
  | .ringingOff =>
    (a.finish (.ok .retrying), { s with queue := s.queue.ring a.job.jobType }, none)
  | .broken => (a, s, none)
  | .done _ => (a, s, none)

end Attempt

end JobRunner
