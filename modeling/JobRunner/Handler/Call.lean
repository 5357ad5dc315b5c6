import JobRunner.Handler.Basic

/-!
# Handler calls

How calls of one handler share it.

- `Gate`: admits the calls in the order of their arrival, as many at once as the handler allows.
- `Station`: a handler at work: its gate, and how many bodies have begun.
- `Call`: one call, as a sequence of atomic steps. The time limit counts from the beginning of the
  body, however long the call waited at the gate.
-/

namespace JobRunner

/-- The identifier of a call. -/
abbrev CallId := Nat

/-- A gate in front of a handler. -/
structure Gate where
  /-- How many calls may be inside at once. -/
  limit : Option Nat
  inside : List CallId
  /-- The calls that wait, in the order of their arrival. -/
  waiting : List CallId
  deriving DecidableEq, Repr, Inhabited

namespace Gate

/-- The gate of a handler. -/
def ofHandler (h : Handler) : Gate := ⟨h.maxConcurrency.map (max · 1), [], []⟩

/-- Whether another call may enter. -/
def hasRoom (g : Gate) : Bool :=
  match g.limit with
  | some limit => g.inside.length < limit
  | none => true

/-- Lets the first waiting call in, if there is room. -/
def fill (g : Gate) : Gate :=
  match g.waiting with
  | id :: waiting => if g.hasRoom then { g with inside := g.inside ++ [id], waiting } else g
  | [] => g

/-- A call arrives. -/
def arrive (g : Gate) (id : CallId) : Gate := { g with waiting := g.waiting ++ [id] }.fill

/-- A call goes. -/
def leave (g : Gate) (id : CallId) : Gate := { g with inside := g.inside.erase id }.fill

/-- Whether a call has been let in. -/
def isInside (g : Gate) (id : CallId) : Bool := g.inside.contains id

end Gate

/-- A handler at work. -/
structure Station where
  handler : Handler
  gate : Gate
  /-- The jobs whose bodies have begun and when, the last first. -/
  begun : List (Job × Nat)
  deriving Inhabited

/-- A handler that has not been called. -/
def Station.ofHandler (h : Handler) : Station := ⟨h, .ofHandler h, []⟩

/-- Where a call stands. -/
inductive CallStage where
  | arriving
  /-- In front of the gate, or let in and about to begin. -/
  | waiting
  /-- The body ends at `due`, this way. -/
  | running (due : Nat) (ending : Ending)
  | ended (ending : Ending)

/-- A call of a handler. -/
structure Call where
  id : CallId
  job : Job
  stage : CallStage

namespace Call

/-- A call that has not arrived yet. -/
def new (id : CallId) (job : Job) : Call := ⟨id, job, .arriving⟩

/-- Whether the call cannot go on at `now`. -/
def isBlocked (c : Call) (s : Station) (now : Nat) : Bool :=
  match c.stage with
  | .arriving => false
  | .waiting => !s.gate.isInside c.id
  | .running due _ => now < due
  | .ended _ => true

/-- When a running body ends. -/
def deadline? (c : Call) : Option Nat :=
  match c.stage with
  | .running due _ => some due
  | _ => none

/-- How the call ended, if it has. -/
def ending? (c : Call) : Option Ending :=
  match c.stage with
  | .ended ending => some ending
  | _ => none

/-- One atomic step. -/
def step (c : Call) (s : Station) (now : Nat) : Call × Station :=
  match c.stage with
  | .arriving => ({ c with stage := .waiting }, { s with gate := s.gate.arrive c.id })
  | .waiting =>
    if s.gate.isInside c.id then
      let work := (s.handler.body s.begun.length c.job).within s.handler.timeout
      ({ c with stage := .running (now + work.busy) work.ending },
        { s with begun := (c.job, now) :: s.begun })
    else (c, s)
  | .running due ending =>
    if due ≤ now then
      ({ c with stage := .ended ending }, { s with gate := s.gate.leave c.id })
    else (c, s)
  | .ended _ => (c, s)

end Call

end JobRunner
