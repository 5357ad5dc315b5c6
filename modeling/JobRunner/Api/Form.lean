import JobRunner.Job.Codec

/-!
# Documents of the API

What clients send and get as JSON.

- `JobForm`: the body of a request for a job.
- `Ticket`, `Progress`: the answers that name a job, and its state.
- `Command`: what a client of a live session asks for.
-/

namespace JobRunner.Api

/-- The body of a request for a job. -/
structure JobForm where
  jobType : String
  payload : Json
  maxAttempts : Option Int
  deriving Repr, Inhabited

namespace JobForm

/-- The JSON form, with null for what is absent. -/
def toJson (f : JobForm) : Json := .object
  [("job_type", .text f.jobType), ("payload", f.payload),
    ("max_attempts", (f.maxAttempts.map .int).getD .null)]

/-- The fields of a form. -/
def fields : Json.Fields [String, Json, Option Int] :=
  .cons (.required "job_type" .text) <| .cons (.withDefault "payload" .any .null) <|
  .cons (.optional "max_attempts" attemptFormat) .nil

/-- How forms are read. -/
def format : Json.Format JobForm :=
  .record "a job form" fields fun (jobType, payload, maxAttempts, ()) =>
    ⟨jobType, payload, maxAttempts⟩

end JobForm

/-- The answer to a request for a job that was accepted. -/
structure Ticket where
  jobId : JobId
  deriving DecidableEq, Repr, Inhabited

namespace Ticket

/-- The JSON form of a ticket. -/
def toJson (t : Ticket) : Json := .object [("job_id", t.jobId.toJson)]

/-- How tickets are read. -/
def format : Json.Format Ticket :=
  .record "a ticket" (.cons (.required "job_id" JobId.format) .nil) fun (jobId, ()) => ⟨jobId⟩

end Ticket

/-- The answer about a job without a final outcome. -/
structure Progress where
  jobId : JobId
  status : Status
  deriving DecidableEq, Repr, Inhabited

namespace Progress

/-- The JSON form of a progress. -/
def toJson (p : Progress) : Json :=
  .object [("job_id", p.jobId.toJson), ("status", p.status.toJson)]

/-- How progress is read. -/
def format : Json.Format Progress :=
  .record "a progress"
    (.cons (.required "job_id" JobId.format) <| .cons (.required "status" Status.format) .nil)
    fun (jobId, status, ()) => ⟨jobId, status⟩

end Progress

/-- What a client of a live session asks for. -/
inductive Command where
  | subscribe (job : JobId)
  | unsubscribe (job : JobId)
  deriving DecidableEq, Repr, Inhabited

namespace Command

/-- The name of a command and its job. -/
def parts : Command → String × JobId
  | subscribe job => ("subscribe", job)
  | unsubscribe job => ("unsubscribe", job)

/-- The JSON form of a command. -/
def toJson (c : Command) : Json := .object [(c.parts.1, c.parts.2.toJson)]

/-- A job read as the job of a command. -/
def caseOf (make : JobId → Command) : Json.Format Command := JobId.format.map make

/-- How commands are read. -/
def format : Json.Format Command :=
  .tagged "a command" [("subscribe", caseOf subscribe), ("unsubscribe", caseOf unsubscribe)]

/-- The command that a text spells. -/
def parse? (s : String) : Option Command := (format.readAll s).toOption

end Command

end JobRunner.Api
