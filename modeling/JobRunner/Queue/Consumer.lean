import JobRunner.Queue.Basic

/-!
# Consumers

A call that waits for the next runnable job of a type, as a sequence of atomic steps.

Taking an id from the lane is the only claim: an id that has been taken is given to nobody else. Ids
of jobs that are not runnable, or not stored, are dropped on the way; an id whose record cannot be
read goes back to the front.
-/

namespace JobRunner

/-- What a consumer is answered: a job, none in time, or a failed read. -/
abbrev ConsumerAnswer := Except StoreError (Option Job)

/-- Where a consumer stands. -/
inductive ConsumerStage where
  /-- About to listen to the bell. -/
  | listening
  /-- About to take an id. -/
  | popping (ear : Ear)
  /-- About to read the record of the id taken. -/
  | reading (ear : Ear) (id : JobId)
  /-- About to put back an id whose record could not be read. -/
  | restoring (ear : Ear) (id : JobId) (why : StoreError)
  /-- About to ring for an id put back. -/
  | ringing (ear : Ear) (why : StoreError)
  /-- Waiting for a ring, the deadline or a cancellation. -/
  | parked (ear : Ear)
  /-- About to stop listening. -/
  | leaving (ear : Ear) (answer : ConsumerAnswer)
  | done (answer : ConsumerAnswer)

/-- A call that waits for a job. -/
structure Consumer where
  jobType : String
  /-- When it gives up waiting. -/
  deadline : Nat
  stage : ConsumerStage

namespace Consumer

/-- Begins to wait at `now`. -/
def start (q : Queue) (now : Nat) (jobType : String) : Consumer × Queue :=
  (⟨jobType, now + q.settings.pollTimeout, .listening⟩, q.openLane jobType)

/-- The answer of a consumer that is done. -/
def answer? (c : Consumer) : Option ConsumerAnswer :=
  match c.stage with
  | .done answer => some answer
  | _ => none

/-- Whether the wait is over: it was cancelled, or the deadline has come. -/
def isOver (c : Consumer) (now : Nat) (cancelled : Bool) : Bool := cancelled || c.deadline ≤ now

/-- Whether the consumer cannot go on at `now`. -/
def isBlocked (c : Consumer) (q : Queue) (now : Nat) (cancelled : Bool) : Bool :=
  match c.stage with
  | .parked ear => !(c.isOver now cancelled || (q.lane c.jobType).bell.isRung ear)
  | .done _ => true
  | _ => false

/-- Does something to the bell of the lane. -/
def withBell (q : Queue) (jobType : String) (act : Bell → Bell) : Queue :=
  let l := q.lane jobType
  q.setLane jobType { l with bell := act l.bell }

/-- One atomic step. A parked consumer that has been rung when its wait is over may take notice of
either first: of the ring, and look for an id once more, if `ringFirst`. -/
def step (c : Consumer) (q : Queue) (now : Nat) (cancelled ringFirst : Bool) : Consumer × Queue :=
  match c.stage with
  | .listening =>
    let (ear, bell) := (q.lane c.jobType).bell.listen
    ({ c with stage := .popping ear }, withBell q c.jobType fun _ => bell)
  | .popping ear =>
    match (q.lane c.jobType).pop? with
    | some (id, l) => ({ c with stage := .reading ear id }, q.setLane c.jobType l)
    | none => ({ c with stage := .parked ear }, q)
  | .reading ear id =>
    match q.backend.getJob id with
    | (.error e, b) => ({ c with stage := .restoring ear id e }, { q with backend := b })
    | (.ok (some job), b) =>
      let stage := if job.status.isRunnable then .leaving ear (.ok (some job)) else .popping ear
      ({ c with stage }, { q with backend := b })
    | (.ok none, b) => ({ c with stage := .popping ear }, { q with backend := b })
  | .restoring ear id e =>
    ({ c with stage := .ringing ear e }, q.setLane c.jobType ((q.lane c.jobType).pushFront id))
  | .ringing ear e => ({ c with stage := .leaving ear (.error e) }, q.ring c.jobType)
  | .parked ear =>
    if (q.lane c.jobType).bell.isRung ear && (ringFirst || !c.isOver now cancelled) then
      ({ c with stage := .listening }, withBell q c.jobType (·.notice ear))
    else if c.isOver now cancelled then ({ c with stage := .leaving ear (.ok none) }, q)
    else (c, q)
  | .leaving ear answer => ({ c with stage := .done answer }, withBell q c.jobType (·.leave ear))
  | .done _ => (c, q)

end Consumer

end JobRunner
