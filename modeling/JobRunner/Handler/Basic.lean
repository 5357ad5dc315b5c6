import JobRunner.Failure
import JobRunner.Job.Basic
import Std.Data.TreeMap

/-!
# Handlers

What the jobs of a type are given to.

- `Work`: what the body of a handler does with a job: how long it is busy, and how it ends.
- `Handler`: a body, with limits on how many calls run at once and how long each may take.
- `Handlers`: the handlers by job type.
-/

namespace JobRunner

/-- How the body of a handler ends. -/
inductive Ending where
  | value (result : Json)
  | failure (why : Failure)
  /-- It breaks off, leaving behind a text perhaps. -/
  | panic (message : Option String)
  deriving Repr, Inhabited

namespace Ending

/-- What an attempt learns from the end of a call. -/
def report : Ending → Except Failure Json
  | value result => .ok result
  | failure why => .error why
  | panic message => .error (.panicked message)

end Ending

/-- What the body of a handler does with a job. -/
structure Work where
  /-- The time it takes in milliseconds. -/
  busy : Nat
  ending : Ending
  deriving Repr, Inhabited

namespace Work

/-- Work that ends at once. -/
def instant (ending : Ending) : Work := ⟨0, ending⟩

/-- Work that does not end in any time that is waited for. -/
def endless : Work := ⟨UInt64.size, .panic none⟩

/-- The work as far as a time limit lets it go; work that takes just the limit is not cut off. -/
def within (w : Work) (limit : Option Nat) : Work :=
  match limit with
  | some limit => if limit < w.busy then ⟨limit, .failure (.timeout limit)⟩ else w
  | none => w

end Work

/-- A handler. -/
structure Handler where
  /-- The work for a job, by the number of calls whose bodies have begun before. -/
  body : Nat → Job → Work
  /-- How many calls may run at once; zero counts as one. -/
  maxConcurrency : Option Nat
  /-- How long a body may take in milliseconds. -/
  timeout : Option Nat

instance : Inhabited Handler := ⟨⟨fun _ _ => default, none, none⟩⟩

namespace Handler

/-- A handler without limits. -/
def plain (body : Nat → Job → Work) : Handler := ⟨body, none, none⟩

/-- The greatest number of calls to which a handler can be limited. -/
def greatestConcurrency : Nat := 0x1FFFFFFFFFFFFFFF

/-- A handler with limits; none if it is limited to more calls than can be counted. -/
def limited? (body : Nat → Job → Work) (maxConcurrency timeout : Option Nat) : Option Handler :=
  if maxConcurrency.all (· ≤ greatestConcurrency) then some ⟨body, maxConcurrency, timeout⟩
  else none

end Handler

/-- Handlers by job type. -/
abbrev Handlers := Std.TreeMap String Handler

/-- The job types with a handler, sorted. -/
def Handlers.jobTypes (hs : Handlers) : List String := hs.keys

end JobRunner
