import JobRunner.Job.Basic
import Std.Data.TreeMap

/-!
# The store

Job records and the outcome of the latest attempt of each job, kept by id.

- `Store.insert?`, `Store.update?`: write a record that must be new, or must not be.
- `Store.listByType`: the jobs of one type, oldest first.
- `Store.countByStatus`: how many jobs stand in each state.
-/

namespace JobRunner

/-- Why a store cannot answer. -/
inductive StoreError where
  | duplicate (id : JobId)
  | unknownJob (id : JobId)
  | corrupt (detail : String)
  deriving DecidableEq, Repr

/-- The wording of a store error. -/
def StoreError.message : StoreError → String
  | duplicate id => "job " ++ id.toText ++ " already exists"
  | unknownJob id => "job " ++ id.toText ++ " not found"
  | corrupt detail => "corrupt record: " ++ detail

/-- Job records and outcomes by id. -/
structure Store where
  jobs : Std.TreeMap JobId Job
  outcomes : Std.TreeMap JobId Outcome
  deriving Inhabited

namespace Store

/-- The store without jobs. -/
def empty : Store := ⟨∅, ∅⟩

/-- The record of a job. -/
def job? (s : Store) (id : JobId) : Option Job := s.jobs[id]?

/-- The outcome of the latest attempt of a job. -/
def outcome? (s : Store) (id : JobId) : Option Outcome := s.outcomes[id]?

/-- Adds the record of a new job. -/
def insert? (s : Store) (job : Job) : Except StoreError Store :=
  if s.jobs.contains job.id then .error (.duplicate job.id)
  else .ok { s with jobs := s.jobs.insert job.id job }

/-- Replaces the record of a job. -/
def update? (s : Store) (job : Job) : Except StoreError Store :=
  if s.jobs.contains job.id then .ok { s with jobs := s.jobs.insert job.id job }
  else .error (.unknownJob job.id)

/-- Sets the outcome of a job. -/
def putOutcome (s : Store) (o : Outcome) : Store :=
  { s with outcomes := s.outcomes.insert o.jobId o }

/-- The jobs of a type, of one state if it is given, oldest first. -/
def listByType (s : Store) (jobType : String) (status : Option Status) : List Job :=
  (s.jobs.values.filter fun job =>
    job.jobType == jobType && status.all (job.status == ·)).mergeSort Job.olderOrSame

/-- The number of jobs in every state. -/
def countByStatus (s : Store) : List (Status × Nat) :=
  Status.all.map fun status => (status, s.jobs.values.countP (·.status == status))

end Store

end JobRunner
