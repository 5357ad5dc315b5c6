import JobRunner.JobId
import JobRunner.Lane.Bell
import Std.Data.TreeSet

/-!
# Lanes

The ids of the waiting jobs of one type, first in first out, none twice.

- `Lane.pushBack`, `Lane.pushFront`: add an id unless it waits already.
- `Lane.pop?`: takes the first id.
-/

namespace JobRunner

/-- The waiting jobs of one type. -/
structure Lane where
  /-- The ids, the first to be taken at the front. -/
  ids : List JobId
  /-- The same ids as a set. -/
  queued : Std.TreeSet JobId
  /-- Rung whenever an id is added. -/
  bell : Bell
  deriving Inhabited

namespace Lane

/-- The lane without jobs. -/
def empty : Lane := ⟨[], ∅, .silent⟩

/-- The number of waiting jobs. -/
def depth (l : Lane) : Nat := l.ids.length

/-- Adds an id at the back; false if it waits already. -/
def pushBack (l : Lane) (id : JobId) : Bool × Lane :=
  if l.queued.contains id then (false, l)
  else (true, { l with ids := l.ids ++ [id], queued := l.queued.insert id })

/-- Adds an id at the front unless it waits already. -/
def pushFront (l : Lane) (id : JobId) : Lane :=
  if l.queued.contains id then l
  else { l with ids := id :: l.ids, queued := l.queued.insert id }

/-- Takes the first id. -/
def pop? (l : Lane) : Option (JobId × Lane) :=
  match l.ids with
  | id :: ids => some (id, { l with ids, queued := l.queued.erase id })
  | [] => none

/-- Rings the bell of the lane. -/
def ring (l : Lane) : Lane := { l with bell := l.bell.ring }

end Lane

end JobRunner
