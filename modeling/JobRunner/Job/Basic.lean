import JobRunner.Instant
import JobRunner.Job.Status
import JobRunner.JobId

/-!
# Jobs

- `Job`: the record of a job.
- `Job.advance`: moves a job along an allowed edge.
- `Outcome`: the result of the latest attempt.
- `Event`: what subscribers are told about a job.
-/

namespace JobRunner

/-- What a producer asks for. -/
structure JobRequest where
  jobType : String
  payload : Json
  maxAttempts : Int
  deriving Repr, Inhabited

/-- A request for a job that is attempted once. -/
def JobRequest.once (jobType : String) (payload : Json) : JobRequest := ⟨jobType, payload, 1⟩

/-- The record of a job. -/
structure Job where
  id : JobId
  jobType : String
  payload : Json
  status : Status
  /-- Attempts begun. -/
  attempts : Int
  /-- Attempts allowed. -/
  maxAttempts : Int
  createdAt : Instant
  updatedAt : Instant
  deriving Repr, Inhabited

namespace Job

/-- The record of a new job: pending, not attempted, and allowed at least one attempt. -/
def pending (id : JobId) (now : Instant) (request : JobRequest) : Job where
  id
  jobType := request.jobType
  payload := request.payload
  status := .pending
  attempts := 0
  maxAttempts := max request.maxAttempts 1
  createdAt := now
  updatedAt := now

/-- Whether another attempt is allowed. -/
def attemptsLeft (job : Job) : Bool := job.attempts < job.maxAttempts

/-- A move between two states that is not allowed. -/
structure InvalidTransition where
  id : JobId
  source : Status
  target : Status
  deriving DecidableEq, Repr

/-- The wording of a move that is not allowed. -/
def InvalidTransition.message (e : InvalidTransition) : String :=
  "job " ++ e.id.toText ++ " cannot move from " ++ e.source.name ++ " to " ++ e.target.name

/-- The job moved to another state at `now`. -/
def advance (job : Job) (now : Instant) (target : Status) : Except InvalidTransition Job :=
  if job.status.mayBecome target then .ok { job with status := target, updatedAt := now }
  else .error ⟨job.id, job.status, target⟩

/-- Whether `a` stands before `b` in a list: by time of creation, then by id. -/
def olderOrSame (a b : Job) : Bool :=
  (compareLex (compareOn createdAt) (compareOn id) a b).isLE

end Job

/-- The result of the latest attempt of a job. -/
structure Outcome where
  jobId : JobId
  status : Status
  /-- What the handler returned. -/
  value : Option Json
  /-- The message of the failure. -/
  error : Option String
  completedAt : Instant
  deriving Repr, Inhabited

namespace Outcome

/-- The outcome of an attempt that succeeded. -/
def completed (jobId : JobId) (value : Json) (now : Instant) : Outcome :=
  ⟨jobId, .completed, some value, none, now⟩

/-- The outcome of an attempt that failed. -/
def failed (jobId : JobId) (error : String) (now : Instant) : Outcome :=
  ⟨jobId, .failed, none, some error, now⟩

end Outcome

/-- What subscribers are told about a job. -/
structure Event where
  kind : String
  jobId : JobId
  status : Status
  value : Option Json
  error : Option String
  deriving Repr, Inhabited

namespace Event

/-- The kind of every event about the status of a job. -/
def statusKind : String := "job_status"

/-- The event that `jobId` has a new status. -/
def ofStatus (jobId : JobId) (status : Status) (value : Option Json) (error : Option String) :
    Event :=
  ⟨statusKind, jobId, status, value, error⟩

end Event

end JobRunner
