import JobRunner.Job.Basic
import JobRunner.Json.Writer

/-!
# Jobs as JSON

How jobs, outcomes and events are written and read. Absent results and errors are left out when they
are written; a missing or null one is read as absent. The text of a record has its fields in the
order in which they are listed here, and its JSON value has them sorted like any other value.
-/

namespace JobRunner

/-- Counters of attempts are signed 32-bit integers. -/
def attemptFormat : Json.Format Int := .integer "i32" (-0x80000000) 0x7FFFFFFF

/-- The entry of a field that may be absent. -/
def Json.entry? (key : String) (v : Option Json) : List (String × Json) :=
  (v.map fun v => (key, v)).toList

namespace Job

/-- The entries of a job, in the order of its fields. -/
def entries (job : Job) : List (String × Json) :=
  [("id", job.id.toJson), ("job_type", .text job.jobType), ("payload", job.payload),
    ("status", job.status.toJson), ("attempts", .int job.attempts),
    ("max_attempts", .int job.maxAttempts), ("created_at", job.createdAt.toJson),
    ("updated_at", job.updatedAt.toJson)]

/-- The JSON form of a job. -/
def toJson (job : Job) : Json := .object job.entries

/-- The text of a job. -/
def toText (job : Job) : String := Json.renderRecord job.entries

/-- The fields of a job. -/
def fields : Json.Fields [JobId, String, Json, Status, Int, Int, Instant, Instant] :=
  .cons (.required "id" JobId.format) <| .cons (.required "job_type" .text) <|
  .cons (.required "payload" .any) <| .cons (.required "status" Status.format) <|
  .cons (.required "attempts" attemptFormat) <| .cons (.required "max_attempts" attemptFormat) <|
  .cons (.required "created_at" Instant.format) <|
  .cons (.required "updated_at" Instant.format) .nil

/-- How jobs are read. -/
def format : Json.Format Job :=
  .record "a job" fields
    fun (id, jobType, payload, status, attempts, maxAttempts, createdAt, updatedAt, ()) =>
      ⟨id, jobType, payload, status, attempts, maxAttempts, createdAt, updatedAt⟩

end Job

namespace Outcome

/-- The entries of an outcome, in the order of its fields. -/
def entries (o : Outcome) : List (String × Json) :=
  [("job_id", o.jobId.toJson), ("status", o.status.toJson)] ++ Json.entry? "result" o.value ++
    Json.entry? "error" (o.error.map .text) ++ [("completed_at", o.completedAt.toJson)]

/-- The JSON form of an outcome. -/
def toJson (o : Outcome) : Json := .object o.entries

/-- The text of an outcome. -/
def toText (o : Outcome) : String := Json.renderRecord o.entries

/-- The fields of an outcome. -/
def fields : Json.Fields [JobId, Status, Option Json, Option String, Instant] :=
  .cons (.required "job_id" JobId.format) <| .cons (.required "status" Status.format) <|
  .cons (.optional "result" .any) <| .cons (.optional "error" .text) <|
  .cons (.required "completed_at" Instant.format) .nil

/-- How outcomes are read. -/
def format : Json.Format Outcome :=
  .record "an outcome" fields fun (jobId, status, value, error, completedAt, ()) =>
    ⟨jobId, status, value, error, completedAt⟩

end Outcome

namespace Event

/-- The entries of an event, in the order of its fields. -/
def entries (e : Event) : List (String × Json) :=
  [("type", .text e.kind), ("job_id", e.jobId.toJson), ("status", e.status.toJson)] ++
    Json.entry? "result" e.value ++ Json.entry? "error" (e.error.map .text)

/-- The JSON form of an event. -/
def toJson (e : Event) : Json := .object e.entries

/-- The text of an event. -/
def toText (e : Event) : String := Json.renderRecord e.entries

/-- The fields of an event. -/
def fields : Json.Fields [String, JobId, Status, Option Json, Option String] :=
  .cons (.required "type" .text) <| .cons (.required "job_id" JobId.format) <|
  .cons (.required "status" Status.format) <|
  .cons (.withDefault "result" (.optional .any) none) <|
  .cons (.withDefault "error" (.optional .text) none) .nil

/-- How events are read. -/
def format : Json.Format Event :=
  .record "an event" fields fun (kind, jobId, status, value, error, ()) =>
    ⟨kind, jobId, status, value, error⟩

end Event

end JobRunner
