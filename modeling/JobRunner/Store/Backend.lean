import JobRunner.Store.Basic

/-!
# A store that may fail

A store behind calls that can go wrong. A failing call answers with an error and leaves the store as
it was; which calls fail is laid down by a plan for each kind of call.
-/

namespace JobRunner

/-- The kinds of calls to a store. -/
inductive StoreCall where
  | insertJob
  | getJob
  | updateJob
  | putResult
  | getResult
  | listByType
  | countByStatus
  deriving DecidableEq, Repr

namespace StoreCall

/-- All kinds of calls. -/
def all : List StoreCall :=
  [.insertJob, .getJob, .updateJob, .putResult, .getResult, .listByType, .countByStatus]

/-- The name of a kind of call. -/
def name : StoreCall → String
  | insertJob => "insert_job"
  | getJob => "get_job"
  | updateJob => "update_job"
  | putResult => "put_result"
  | getResult => "get_result"
  | listByType => "list_by_type"
  | countByStatus => "count_by_status"

/-- The kind of call with a name. -/
def ofName? (name : String) : Option StoreCall := all.find? (·.name == name)

/-- The error of a call that fails as planned. -/
def fault (c : StoreCall) : StoreError := .corrupt (c.name ++ " fault")

end StoreCall

/-- A store, and for each kind of call whether the coming calls of that kind fail. -/
structure Backend where
  store : Store
  plan : StoreCall → List Bool

namespace Backend

/-- The empty store, none of whose calls fails. -/
def empty : Backend := ⟨.empty, fun _ => []⟩

instance : Inhabited Backend := ⟨empty⟩

/-- Lays down which of the coming calls of a kind fail. -/
def setPlan (b : Backend) (c : StoreCall) (failures : List Bool) : Backend :=
  { b with plan := fun c' => if c' = c then failures else b.plan c' }

/-- Makes a call: it fails if so planned, and else does `act` to the store. -/
def call (b : Backend) (c : StoreCall) (act : Store → Except StoreError (α × Store)) :
    Except StoreError α × Backend :=
  match b.plan c with
  | true :: rest => (.error c.fault, b.setPlan c rest)
  | false :: rest => go (b.setPlan c rest)
  | [] => go b
where
  /-- A call that is not planned to fail. -/
  go (b : Backend) : Except StoreError α × Backend :=
    match act b.store with
    | .ok (a, store) => (.ok a, { b with store })
    | .error e => (.error e, b)

/-- Adds the record of a new job. -/
def insertJob (b : Backend) (job : Job) : Except StoreError Unit × Backend :=
  b.call .insertJob fun s => (s.insert? job).map ((), ·)

/-- The record of a job. -/
def getJob (b : Backend) (id : JobId) : Except StoreError (Option Job) × Backend :=
  b.call .getJob fun s => .ok (s.job? id, s)

/-- Replaces the record of a job. -/
def updateJob (b : Backend) (job : Job) : Except StoreError Unit × Backend :=
  b.call .updateJob fun s => (s.update? job).map ((), ·)

/-- Sets the outcome of a job. -/
def putResult (b : Backend) (o : Outcome) : Except StoreError Unit × Backend :=
  b.call .putResult fun s => .ok ((), s.putOutcome o)

/-- The outcome of the latest attempt of a job. -/
def getResult (b : Backend) (id : JobId) : Except StoreError (Option Outcome) × Backend :=
  b.call .getResult fun s => .ok (s.outcome? id, s)

/-- The jobs of a type, oldest first. -/
def listByType (b : Backend) (jobType : String) (status : Option Status) :
    Except StoreError (List Job) × Backend :=
  b.call .listByType fun s => .ok (s.listByType jobType status, s)

/-- The number of jobs in every state. -/
def countByStatus (b : Backend) : Except StoreError (List (Status × Nat)) × Backend :=
  b.call .countByStatus fun s => .ok (s.countByStatus, s)

end Backend

end JobRunner
