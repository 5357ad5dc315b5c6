import JobRunner.Job.Basic

/-!
# Connections

The sending side of a live session: a bounded buffer of events that the session takes from.
-/

namespace JobRunner

/-- Why an event cannot be delivered. -/
inductive DeliveryError where
  | full
  | closed
  deriving DecidableEq, Repr

/-- The wording of a failed delivery. -/
def DeliveryError.message : DeliveryError → String
  | full => "outbound buffer full"
  | closed => "connection closed"

/-- The identifier of a connection. -/
abbrev ConnectionId := Nat

/-- A connection. -/
structure Connection where
  /-- How many events the buffer holds. -/
  room : Nat
  /-- The events delivered and not taken yet, the oldest first. -/
  buffer : List Event
  /-- Whether the session has been asked to hang up. -/
  closed : Bool
  /-- Whether somebody still takes events from the buffer. -/
  attended : Bool
  deriving Inhabited

namespace Connection

/-- The greatest room of a buffer. -/
def greatestRoom : Nat := 0x1FFFFFFFFFFFFFFF

/-- A new connection, with room for at least one event. -/
def new (room : Nat) : Connection := ⟨max room 1, [], false, true⟩

/-- Whether no event can be delivered any more. -/
def isClosed (c : Connection) : Bool := !c.attended || c.closed

/-- Delivers an event without waiting. -/
def deliver (c : Connection) (e : Event) : Except DeliveryError Connection :=
  if c.isClosed then .error .closed
  else if c.room ≤ c.buffer.length then .error .full
  else .ok { c with buffer := c.buffer ++ [e] }

/-- Asks the session to hang up. -/
def close (c : Connection) : Connection := { c with closed := true }

/-- Nobody takes events any more; those in the buffer are lost. -/
def abandon (c : Connection) : Connection := { c with attended := false, buffer := [] }

/-- Takes the oldest events, at most `most` of them. -/
def take (c : Connection) (most : Nat) : List Event × Connection :=
  (c.buffer.take most, { c with buffer := c.buffer.drop most })

end Connection

end JobRunner
