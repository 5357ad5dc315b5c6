import JobRunner.Hub.Subscriptions

/-!
# The hub

Tells the connections that follow a job about its new status, and keeps the latest event of every
job for those that come later.

- `Hub.publish`: records an event and delivers it to the present followers. A connection that cannot
  take it is unsubscribed everywhere and closed.
- `Hub.join`: subscribes a connection and replays the latest event to it.

Each of the two is a sequence of sections, and each section is atomic. The latest event of a job
stands in a slot; a call finds the slot in one section and uses it in a later one, and in between
the slot may have been dropped from the table. Only publishing adds slots. Jobs whose latest event
is final are remembered in the order in which they settled, and the oldest are dropped when there
are more of them than the capacity.
-/

namespace JobRunner

/-- The identifier of a slot. -/
abbrev SlotId := Nat

/-- The latest events. -/
structure EventCache where
  /-- The slot of every job that has one. -/
  slots : Std.TreeMap JobId SlotId
  /-- What every slot holds, also those no longer in the table. -/
  cells : Std.TreeMap SlotId Event
  nextSlot : SlotId
  /-- The jobs that settled, the oldest first. -/
  settled : List JobId
  /-- How many settlements are remembered. -/
  capacity : Nat
  deriving Inhabited

namespace EventCache

/-- A cache without events. -/
def empty (capacity : Nat) : EventCache := ⟨∅, ∅, 0, [], capacity⟩

/-- The event that the slot of a job holds. -/
def latest? (c : EventCache) (job : JobId) : Option Event :=
  c.slots[job]?.bind fun slot => c.cells[slot]?

/-- The slot of a job, a new one if it has none. -/
def takeSlot (c : EventCache) (job : JobId) : SlotId × EventCache :=
  match c.slots[job]? with
  | some slot => (slot, c)
  | none =>
    (c.nextSlot, { c with slots := c.slots.insert job c.nextSlot, nextSlot := c.nextSlot + 1 })

/-- Whether the slot of a job holds no event of a job that is still going on. -/
def isEvictable (c : EventCache) (job : JobId) : Bool :=
  match c.slots[job]? with
  | some slot => c.cells[slot]?.all (·.status.isTerminal)
  | none => false

/-- Drops the slot of a job. -/
def dropSlot (c : EventCache) (job : JobId) : EventCache := { c with slots := c.slots.erase job }

/-- Drops the `excess` oldest settlements, and with each the slot of its job unless that goes on. -/
def trim (c : EventCache) : (excess : Nat) → EventCache
  | 0 => c
  | excess + 1 =>
    match c.settled with
    | [] => c
    | job :: settled =>
      let c := { c with settled }
      (if c.isEvictable job then c.dropSlot job else c).trim excess

/-- Remembers that a job has settled. -/
def settle (c : EventCache) (job : JobId) : EventCache :=
  let c := { c with settled := c.settled ++ [job] }
  c.trim (c.settled.length - c.capacity)

end EventCache

/-- Counts of events. -/
structure HubStats where
  published : Nat
  delivered : Nat
  dropped : Nat
  deriving DecidableEq, Repr, Inhabited

/-- Connections, subscriptions and latest events. -/
structure Hub where
  connections : Std.TreeMap ConnectionId Connection
  nextConnection : ConnectionId
  subscriptions : Subscriptions
  cache : EventCache
  stats : HubStats
  deriving Inhabited

namespace Hub

/-- A hub without connections. -/
def empty (capacity : Nat) : Hub := ⟨∅, 0, .empty, .empty capacity, ⟨0, 0, 0⟩⟩

/-! ## Connections -/

/-- A connection; one that is unknown is closed. -/
def connection (h : Hub) (c : ConnectionId) : Connection :=
  h.connections.getD c ⟨0, [], true, false⟩

/-- Puts a connection in its place. -/
def setConnection (h : Hub) (c : ConnectionId) (connection : Connection) : Hub :=
  { h with connections := h.connections.insert c connection }

/-- Adds a connection. -/
def openConnection (h : Hub) (room : Nat) : ConnectionId × Hub :=
  (h.nextConnection,
    { h.setConnection h.nextConnection (.new room) with nextConnection := h.nextConnection + 1 })

/-- Adds a connection; none if its buffer would be greater than any can be. -/
def openConnection? (h : Hub) (room : Nat) : Option (ConnectionId × Hub) :=
  if room ≤ Connection.greatestRoom then some (h.openConnection room) else none

/-- Asks the session of a connection to hang up. -/
def close (h : Hub) (c : ConnectionId) : Hub := h.setConnection c (h.connection c).close

/-- Nobody takes the events of a connection any more. -/
def abandon (h : Hub) (c : ConnectionId) : Hub := h.setConnection c (h.connection c).abandon

/-- Takes the events that wait for a connection, at most `most` of them. -/
def take (h : Hub) (c : ConnectionId) (most : Nat) : List Event × Hub :=
  let (events, connection) := (h.connection c).take most
  (events, h.setConnection c connection)

/-- Delivers an event to one connection. -/
def deliver (h : Hub) (c : ConnectionId) (e : Event) : Except DeliveryError Hub :=
  ((h.connection c).deliver e).map (h.setConnection c)

/-! ## Subscriptions -/

/-- Subscribes a connection, without replay; false if it follows the job already. -/
def subscribe (h : Hub) (c : ConnectionId) (job : JobId) : Bool × Hub :=
  let (added, subscriptions) := h.subscriptions.subscribe c job
  (added, { h with subscriptions })

/-- Ends a subscription; false if there is none. -/
def unsubscribe (h : Hub) (c : ConnectionId) (job : JobId) : Bool × Hub :=
  let (removed, subscriptions) := h.subscriptions.unsubscribe c job
  (removed, { h with subscriptions })

/-- Ends all subscriptions of a connection; answers with the jobs it followed. -/
def unsubscribeAll (h : Hub) (c : ConnectionId) : List JobId × Hub :=
  let (jobs, subscriptions) := h.subscriptions.unsubscribeAll c
  (jobs, { h with subscriptions })

/-- Removes a connection that could not take an event. -/
def evict (h : Hub) (c : ConnectionId) : Hub :=
  let h := ((h.unsubscribeAll c).2).close c
  { h with stats := { h.stats with dropped := h.stats.dropped + 1 } }

/-! ## Publishing -/

/-- First section: finds or adds the slot of the job. -/
def takeSlot (h : Hub) (job : JobId) : SlotId × Hub :=
  let (slot, cache) := h.cache.takeSlot job
  (slot, { h with cache })

/-- Delivers an event to some connections, evicting those that cannot take it; answers with the
number of those that could. -/
def deliverAll (e : Event) : List ConnectionId → Hub → Nat × Hub
  | [], h => (0, h)
  | c :: cs, h =>
    match h.deliver c e with
    | .ok h =>
      let (n, h) := deliverAll e cs h
      (n + 1, h)
    | .error _ => deliverAll e cs (h.evict c)

/-- Second section: stores the event in the slot and delivers it to the followers of its job. -/
def announce (h : Hub) (slot : SlotId) (e : Event) : Nat × Hub :=
  let cache := { h.cache with cells := h.cache.cells.insert slot e }
  let stats := { h.stats with published := h.stats.published + 1 }
  deliverAll e (h.subscriptions.connectionsFor e.jobId) { h with cache, stats }

/-- Third section: remembers a job whose event is final. -/
def settle (h : Hub) (e : Event) : Hub :=
  if e.status.isTerminal then { h with cache := h.cache.settle e.jobId } else h

/-- Counts deliveries. -/
def countDelivered (h : Hub) (n : Nat) : Hub :=
  { h with stats := { h.stats with delivered := h.stats.delivered + n } }

/-- Records an event as the latest of its job and delivers it to every follower; answers with the
number of connections that took it. -/
def publish (h : Hub) (e : Event) : Nat × Hub :=
  let (slot, h) := h.takeSlot e.jobId
  let (delivered, h) := h.announce slot e
  (delivered, (h.settle e).countDelivered delivered)

/-! ## Joining -/

/-- First section: finds the slot of a job; if there is none, the connection is subscribed at once.
-/
def findSlot (h : Hub) (c : ConnectionId) (job : JobId) : Option SlotId × Hub :=
  match h.cache.slots[job]? with
  | some slot => (some slot, h)
  | none => (none, (h.subscribe c job).2)

/-- Second section: subscribes the connection and replays what the slot holds; whether it took it.
-/
def replay (h : Hub) (c : ConnectionId) (job : JobId) (slot : SlotId) : Bool × Hub :=
  let h := (h.subscribe c job).2
  match h.cache.cells[slot]? with
  | none => (false, h)
  | some e =>
    match h.deliver c e with
    | .ok h => (true, h.countDelivered 1)
    | .error _ => (false, h.evict c)

/-- Subscribes a connection to a job and replays the latest event; whether one was taken. -/
def join (h : Hub) (c : ConnectionId) (job : JobId) : Bool × Hub :=
  match h.findSlot c job with
  | (some slot, h) => h.replay c job slot
  | (none, h) => (false, h)

/-! ## Looking -/

/-- The latest event of a job. -/
def latest? (h : Hub) (job : JobId) : Option Event := h.cache.latest? job

/-- Drops the latest event of a job; whether there was one. -/
def forget (h : Hub) (job : JobId) : Bool × Hub :=
  (h.cache.slots.contains job, { h with cache := h.cache.dropSlot job })

/-- The number of jobs with a slot. -/
def cachedJobs (h : Hub) : Nat := h.cache.slots.size

end Hub

end JobRunner
