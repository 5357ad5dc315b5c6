import JobRunner.Json.Format
import JobRunner.Text.Blank
import JobRunner.Text.Case

/-!
# Job status

The five states of a job and the moves between them.

- `Status.isTerminal`: the states with a final outcome.
- `Status.isRunnable`: the states in which a job may be handed to a worker.
- `Status.mayBecome`: the moves that are allowed.
- `Status.parse`: reads a name in any case, with blanks around it.
-/

namespace JobRunner

/-- Where a job stands. -/
inductive Status where
  | pending
  | processing
  | completed
  | failed
  | retrying
  deriving DecidableEq, Repr, Inhabited

namespace Status

/-- All states, in the order in which reports list them. -/
def all : List Status := [.pending, .processing, .completed, .failed, .retrying]

/-- The name of a state. -/
def name : Status → String
  | pending => "pending"
  | processing => "processing"
  | completed => "completed"
  | failed => "failed"
  | retrying => "retrying"

instance : ToString Status := ⟨name⟩

/-- Whether a job in this state has a final outcome. -/
def isTerminal : Status → Bool
  | completed | failed => true
  | _ => false

/-- Whether a job in this state may be handed to a worker. -/
def isRunnable : Status → Bool
  | pending | retrying => true
  | _ => false

/-- Whether a job may move from one state to another. A processing job becomes retrying only when it
is found again after its worker was lost. -/
def mayBecome : Status → Status → Bool
  | pending, processing => true
  | retrying, processing => true
  | processing, completed => true
  | processing, failed => true
  | failed, retrying => true
  | processing, retrying => true
  | _, _ => false

/-- The states under their names. -/
def table : List (String × Status) := all.map fun s => (s.name, s)

/-- The state with exactly this name. -/
def ofName? (name : String) : Option Status := table.lookup name

theorem ofName?_name (s : Status) : ofName? s.name = some s := by cases s <;> rfl

/-- A name that is no state. -/
structure Unknown where
  name : String
  deriving DecidableEq, Repr

/-- The wording of an unknown state. -/
def Unknown.message (u : Unknown) : String := "unknown job status: " ++ u.name

/-- The state that a text names, in any case and with blanks around the name. -/
def parse (s : String) : Except Unknown Status :=
  let name := Text.lower (Text.trim s)
  match ofName? name with
  | some status => .ok status
  | none => .error ⟨name⟩

/-- States are written as their names. -/
def toJson (s : Status) : Json := .text s.name

/-- How states are read; only the exact names are. -/
def format : Json.Format Status := .enumeration "a job status" table

end Status

end JobRunner
