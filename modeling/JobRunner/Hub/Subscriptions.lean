import JobRunner.Hub.Connection
import Std.Data.TreeMap
import Std.Data.TreeSet

/-!
# Subscriptions

Which connection follows which job, indexed both ways. Neither index keeps an empty entry.
-/

namespace JobRunner

/-- The pairs of a connection and a job it follows. -/
structure Subscriptions where
  byJob : Std.TreeMap JobId (Std.TreeSet ConnectionId)
  byConnection : Std.TreeMap ConnectionId (Std.TreeSet JobId)
  deriving Inhabited

namespace Subscriptions

/-- No pairs. -/
def empty : Subscriptions := ⟨∅, ∅⟩

/-- The connections that follow a job, each once. -/
def connectionsFor (s : Subscriptions) (job : JobId) : List ConnectionId :=
  (s.byJob.getD job ∅).toList

/-- The jobs that a connection follows, each once. -/
def jobsFor (s : Subscriptions) (connection : ConnectionId) : List JobId :=
  (s.byConnection.getD connection ∅).toList

/-- Adds a pair; false if it is there already. -/
def subscribe (s : Subscriptions) (connection : ConnectionId) (job : JobId) :
    Bool × Subscriptions :=
  let connections := s.byJob.getD job ∅
  let jobs := s.byConnection.getD connection ∅
  (!connections.contains connection,
    ⟨s.byJob.insert job (connections.insert connection),
      s.byConnection.insert connection (jobs.insert job)⟩)

/-- Takes `connection` out of the entry of `job`. -/
def dropConnection (byJob : Std.TreeMap JobId (Std.TreeSet ConnectionId)) (job : JobId)
    (connection : ConnectionId) : Std.TreeMap JobId (Std.TreeSet ConnectionId) :=
  match byJob[job]? with
  | some connections =>
    let left := connections.erase connection
    if left.isEmpty then byJob.erase job else byJob.insert job left
  | none => byJob

/-- Takes `job` out of the entry of `connection`. -/
def dropJob (byConnection : Std.TreeMap ConnectionId (Std.TreeSet JobId))
    (connection : ConnectionId) (job : JobId) : Std.TreeMap ConnectionId (Std.TreeSet JobId) :=
  match byConnection[connection]? with
  | some jobs =>
    let left := jobs.erase job
    if left.isEmpty then byConnection.erase connection else byConnection.insert connection left
  | none => byConnection

/-- Removes a pair; false if it is not there. -/
def unsubscribe (s : Subscriptions) (connection : ConnectionId) (job : JobId) :
    Bool × Subscriptions :=
  ((s.byJob.getD job ∅).contains connection,
    ⟨dropConnection s.byJob job connection, dropJob s.byConnection connection job⟩)

/-- Removes all pairs of a connection; answers with their jobs. -/
def unsubscribeAll (s : Subscriptions) (connection : ConnectionId) : List JobId × Subscriptions :=
  let jobs := s.jobsFor connection
  (jobs, ⟨jobs.foldl (fun byJob job => dropConnection byJob job connection) s.byJob,
    s.byConnection.erase connection⟩)

/-- The number of connections that follow a job. -/
def connectionCount (s : Subscriptions) : Nat := s.byConnection.size

/-- The number of pairs. -/
def subscriptionCount (s : Subscriptions) : Nat :=
  s.byConnection.values.foldl (fun n jobs => n + jobs.size) 0

/-- The number of jobs that are followed. -/
def jobCount (s : Subscriptions) : Nat := s.byJob.size

end Subscriptions

end JobRunner
