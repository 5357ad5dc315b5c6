import JobRunner.Json.Writer
import JobRunner.Queue.Basic
import JobRunner.Text.Blank

/-!
# Producers

How a job enters the queue.

- `EnqueueError`: why a request is refused.
- `Queue.check`: the conditions on a request.
- `Producer`: a call that enqueues a job, as a sequence of atomic steps: the record is stored, the
  id is put into its lane, the bell is rung.
- `Queue.enqueue`: the same call in one piece, as `Producer.steps_checking` says.
-/

namespace JobRunner

/-- Why a request for a job is refused. -/
inductive EnqueueError where
  | invalidType
  | unknownType (jobType : String)
  | payloadTooLarge (size limit : Nat)
  | store (why : StoreError)
  deriving DecidableEq, Repr

/-- The wording of a refusal. -/
def EnqueueError.message : EnqueueError → String
  | invalidType => "job_type is required"
  | unknownType jobType => "no handler registered for job_type=" ++ jobType
  | payloadTooLarge size limit =>
    "payload is " ++ toString size ++ " bytes, limit is " ++ toString limit
  | store why => "failed to persist job: " ++ why.message

namespace Queue

/-- A request needs a type that is not blank and a payload within the limit. -/
def check (q : Queue) (request : JobRequest) : Except EnqueueError Unit :=
  if Text.isBlank request.jobType then .error .invalidType
  else
    let size := request.payload.byteSize
    if q.settings.maxPayloadBytes < size then
      .error (.payloadTooLarge size q.settings.maxPayloadBytes)
    else .ok ()

end Queue

/-! ## The call in steps -/

/-- Where a call that enqueues a job stands. -/
inductive Producer where
  | checking (id : JobId) (now : Instant) (request : JobRequest)
  | inserting (job : Job)
  | pushing (job : Job)
  | ringing (job : Job)
  | done (answer : Except EnqueueError JobId)

namespace Producer

/-- One atomic step. -/
def step : Producer → Queue → Producer × Queue
  | checking id now request, q =>
    match q.check request with
    | .error e => (.done (.error e), q)
    | .ok () => (.inserting (.pending id now request), q)
  | inserting job, q =>
    match q.backend.insertJob job with
    | (.error e, b) => (.done (.error (.store e)), { q with backend := b })
    | (.ok (), b) => (.pushing job, { q with backend := b })
  | pushing job, q =>
    let (added, q) := q.push job.jobType job.id
    (if added then .ringing job else .done (.ok job.id), q)
  | ringing job, q => (.done (.ok job.id), q.ring job.jobType)
  | done answer, q => (.done answer, q)

/-- Several steps. -/
def steps : (count : Nat) → Producer → Queue → Producer × Queue
  | 0, p, q => (p, q)
  | count + 1, p, q => steps count (p.step q).1 (p.step q).2

end Producer

/-! ## The call in one piece -/

/-- Stores a new job and makes it visible. -/
def Queue.enqueue (q : Queue) (id : JobId) (now : Instant) (request : JobRequest) :
    Except EnqueueError JobId × Queue :=
  match q.check request with
  | .error e => (.error e, q)
  | .ok () =>
    let job := Job.pending id now request
    match q.backend.insertJob job with
    | (.error e, b) => (.error (.store e), { q with backend := b })
    | (.ok (), b) => (.ok id, ({ q with backend := b }.append job.jobType id).2)

namespace Producer

/-- A call that is done stays done. -/
theorem steps_done (count : Nat) (answer : Except EnqueueError JobId) (q : Queue) :
    steps count (done answer) q = (done answer, q) := by
  induction count with
  | zero => rfl
  | succ n ih => simpa [steps, step] using ih

/-- Four steps without anything in between are the call in one piece. -/
theorem steps_checking (id : JobId) (now : Instant) (request : JobRequest) (q : Queue) :
    steps 4 (checking id now request) q =
      (done (q.enqueue id now request).1, (q.enqueue id now request).2) := by
  cases hc : q.check request with
  | error e => simp [steps, step, Queue.enqueue, hc]
  | ok u =>
    rcases hi : q.backend.insertJob (.pending id now request) with ⟨answer, b⟩
    cases answer with
    | error e => simp [steps, step, Queue.enqueue, hc, hi]
    | ok u =>
      rcases hp : ({ q with backend := b } : Queue).push request.jobType id with ⟨added, q'⟩
      have ht : (Job.pending id now request).jobType = request.jobType := rfl
      have hid : (Job.pending id now request).id = id := rfl
      cases added <;> simp [steps, step, Queue.enqueue, Queue.append, hc, hi, ht, hid, hp]

end Producer

end JobRunner
