/-!
# Bells

A bell wakes one of the consumers that listen to it at a time, the one that has listened longest.

- `Bell.ring`: wakes the longest listener, or leaves a permit for the next one if nobody listens.
- `Bell.listen`: takes the permit, or begins to listen.
- `Bell.leave`: stops listening; one who was rung and has not noticed passes the ring on.
-/

namespace JobRunner

/-- What a listener holds of a bell. -/
inductive Ear where
  /-- The permit was there when it began to listen. -/
  | satisfied
  /-- A place among the listeners. -/
  | place (ticket : Nat)
  deriving DecidableEq, Repr

/-- A bell with its listeners. -/
structure Bell where
  /-- A ring that nobody has heard yet. -/
  permit : Bool
  /-- The places not rung yet, the oldest first. -/
  waiting : List Nat
  /-- The places rung but not noticed yet. -/
  rung : List Nat
  /-- The next place. -/
  next : Nat
  deriving DecidableEq, Repr, Inhabited

namespace Bell

/-- A bell that nobody listens to. -/
def silent : Bell := ⟨false, [], [], 0⟩

/-- Rings once. -/
def ring (b : Bell) : Bell :=
  match b.waiting with
  | ticket :: waiting => { b with waiting, rung := ticket :: b.rung }
  | [] => { b with permit := true }

/-- Begins to listen. -/
def listen (b : Bell) : Ear × Bell :=
  if b.permit then (.satisfied, { b with permit := false })
  else (.place b.next, { b with waiting := b.waiting ++ [b.next], next := b.next + 1 })

/-- Whether a listener has been rung. -/
def isRung (b : Bell) : Ear → Bool
  | .satisfied => true
  | .place ticket => b.rung.contains ticket

/-- A listener notices that it has been rung. -/
def notice (b : Bell) : Ear → Bell
  | .satisfied => b
  | .place ticket => { b with rung := b.rung.erase ticket }

/-- A listener goes away. -/
def leave (b : Bell) : Ear → Bell
  | .satisfied => b
  | .place ticket =>
    if b.rung.contains ticket then ({ b with rung := b.rung.erase ticket } : Bell).ring
    else { b with waiting := b.waiting.erase ticket }

end Bell

end JobRunner
