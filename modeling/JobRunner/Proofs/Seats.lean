import JobRunner.Proofs.EventCache
import JobRunner.Proofs.Subscriptions

/-!
# The hub, seen from one connection

What the sections of the hub do to one connection and to the jobs that it follows. No section does
anything else to it, whatever it does to other connections.

- `Seat`: a connection with the jobs that it follows.
- `Seat.offer`: an event is delivered to the connection, or the connection is removed.
- `Hub.seat_publish`, `Hub.seat_join`: a publication is offered to the followers of its job, and the
  latest event to the connection that joins.
-/

namespace JobRunner

/-! ## Connections -/

namespace Connection

/-- The connection is closed, nobody takes its events, or its buffer is full. -/
def Refuses (c : Connection) : Prop :=
  c.closed = true ∨ c.attended = false ∨ c.room ≤ c.buffer.length

instance (c : Connection) : Decidable c.Refuses := inferInstanceAs (Decidable (_ ∨ _ ∨ _))

/-- A connection that is full or closed takes no event. -/
theorem deliver_of_refuses {c : Connection} (h : c.Refuses) (e : Event) :
    ∃ why, c.deliver e = .error why := by
  unfold deliver isClosed
  split
  · exact ⟨_, rfl⟩
  · next hopen =>
    rcases h with hclosed | hattended | hfull
    · simp [hclosed] at hopen
    · simp [hattended] at hopen
    · exact ⟨_, if_pos hfull⟩

/-- Any other connection takes the event at the end of its buffer. -/
theorem deliver_of_not_refuses {c : Connection} (h : ¬c.Refuses) (e : Event) :
    c.deliver e = .ok { c with buffer := c.buffer ++ [e] } := by
  simp only [Refuses, not_or, Bool.not_eq_true, Bool.not_eq_false] at h
  obtain ⟨hclosed, hattended, hfull⟩ := h
  simp [deliver, isClosed, hclosed, hattended, hfull]

end Connection

/-! ## Seats -/

/-- A connection with the jobs that it follows. -/
@[ext]
structure Seat where
  connection : Connection
  follows : JobId → Prop

namespace Seat

/-- The connection follows one job more. -/
def follow (s : Seat) (job : JobId) : Seat := { s with follows := fun j => j = job ∨ s.follows j }

/-- The connection follows nothing any more. -/
def leave (s : Seat) : Seat := { s with follows := fun _ => False }

/-- An event is delivered; a connection that refuses it is removed and closed. -/
def offer (s : Seat) (e : Event) : Seat :=
  if s.connection.Refuses then { s.leave with connection := s.connection.close }
  else { s with connection := { s.connection with buffer := s.connection.buffer ++ [e] } }

/-- An event is delivered if there is one. -/
def offer? (s : Seat) : Option Event → Seat
  | some e => s.offer e
  | none => s

/-- The connection joins a job if there is one, and an event is delivered if there is one. -/
def turn (s : Seat) (joins : Option JobId) (delivers : Option Event) : Seat :=
  (joins.elim s s.follow).offer? delivers

variable {s : Seat} {job j : JobId}

@[simp] theorem follow_follows : (s.follow job).follows j ↔ j = job ∨ s.follows j := Iff.rfl
@[simp] theorem leave_follows : s.leave.follows j ↔ False := Iff.rfl

@[simp] theorem offer_follows (e : Event) :
    (s.offer e).follows j ↔ ¬s.connection.Refuses ∧ s.follows j := by
  unfold offer
  split
  · next hr => simp [hr]
  · next hr => simp [hr]

/-- The connection that takes a turn, before the delivery. -/
private theorem turn_connection (s : Seat) (joins : Option JobId) :
    (joins.elim s s.follow).connection = s.connection := by
  cases joins <;> rfl

/-- A connection follows what it followed before and what it joins, unless it refuses an event. -/
theorem turn_follows (s : Seat) (joins : Option JobId) (delivers : Option Event) :
    (s.turn joins delivers).follows j ↔
      ¬(delivers.isSome = true ∧ s.connection.Refuses) ∧ (s.follows j ∨ joins = some j) := by
  have hjoins : (joins.elim s s.follow).follows j ↔ s.follows j ∨ joins = some j := by
    cases joins with
    | none => simp
    | some job => simp [or_comm, eq_comm]
  unfold turn
  cases delivers with
  | none => simpa [offer?] using hjoins
  | some e => rw [offer?, offer_follows, hjoins, turn_connection]; simp

/-- The buffer of a connection gets what is delivered, unless the connection refuses it. -/
theorem turn_buffer (s : Seat) (joins : Option JobId) (delivers : Option Event) :
    (s.turn joins delivers).connection.buffer =
      s.connection.buffer ++ if s.connection.Refuses then [] else delivers.toList := by
  unfold turn
  cases delivers with
  | none => simp [offer?, turn_connection]
  | some e =>
    rw [offer?, offer, turn_connection]
    split
    · simp [Connection.close]
    · rfl

/-- A connection that refuses what is delivered is closed. -/
theorem turn_closed (s : Seat) (joins : Option JobId) {delivers : Option Event}
    (hdelivers : delivers.isSome = true) (hr : s.connection.Refuses) :
    (s.turn joins delivers).connection.closed = true := by
  obtain ⟨e, rfl⟩ := Option.isSome_iff_exists.mp hdelivers
  rw [turn, offer?, offer, if_pos (by rwa [turn_connection])]
  rfl

end Seat

namespace Hub

/-- What a connection sees of the hub. -/
def seat (h : Hub) (c : ConnectionId) : Seat := ⟨h.connection c, h.subscriptions.Follows c⟩

variable {h : Hub} {c c' : ConnectionId} {job : JobId} {e : Event}

@[simp] theorem seat_follows : (h.seat c).follows job ↔ h.subscriptions.Follows c job := Iff.rfl

/-- Only the connection that is put into the table changes. -/
theorem connection_setConnection (h : Hub) (c c' : ConnectionId) (connection : Connection) :
    (h.setConnection c' connection).connection c =
      if c = c' then connection else h.connection c := by
  show (h.connections.insert c' connection).getD c _ = _
  rw [Std.TreeMap.getD_insert]
  simp only [Std.LawfulEqCmp.compare_eq_iff_eq, eq_comm (a := c')]
  rfl

theorem seat_setConnection (h : Hub) (c c' : ConnectionId) (connection : Connection) :
    (h.setConnection c' connection).seat c =
      if c = c' then { h.seat c with connection } else h.seat c := by
  unfold seat
  rw [connection_setConnection]
  split <;> rfl

/-! ## Subscriptions -/

/-- A seat is known by its connection and by the jobs it follows. -/
private theorem seat_eq {s : Seat} (connection : h.connection c = s.connection)
    (follows : ∀ j, h.subscriptions.Follows c j ↔ s.follows j) : h.seat c = s :=
  Seat.ext connection (funext fun j => propext (follows j))

/-- Who subscribes follows the job as well; nobody else notices. -/
theorem seat_subscribe (h : Hub) (c c' : ConnectionId) (job : JobId) :
    (h.subscribe c' job).2.seat c = if c = c' then (h.seat c).follow job else h.seat c := by
  split
  · next hc => exact seat_eq rfl fun j => Subscriptions.follows_subscribe.trans (by simp [hc])
  · next hc => exact seat_eq rfl fun j => Subscriptions.follows_subscribe.trans (by simp [hc])

theorem sound_subscribe (hs : h.subscriptions.Sound) (c : ConnectionId) (job : JobId) :
    (h.subscribe c job).2.subscriptions.Sound :=
  hs.subscribe c job

/-- Who unsubscribes from everything follows no job; nobody else notices. -/
theorem seat_unsubscribeAll (hs : h.subscriptions.Sound) (c c' : ConnectionId) :
    (h.unsubscribeAll c').2.seat c = if c = c' then (h.seat c).leave else h.seat c := by
  split
  · next hc =>
    exact seat_eq rfl fun j => (Subscriptions.follows_unsubscribeAll hs).trans (by simp [hc])
  · next hc =>
    exact seat_eq rfl fun j => (Subscriptions.follows_unsubscribeAll hs).trans (by simp [hc])

/-! ## Deliveries -/

/-- Delivers an event to one connection; one that refuses it is evicted. -/
def offer (h : Hub) (c : ConnectionId) (e : Event) : Hub :=
  match h.deliver c e with
  | .ok h => h
  | .error _ => h.evict c

/-- A connection that refuses an event is evicted. -/
theorem offer_of_refuses (hr : (h.connection c).Refuses) (e : Event) :
    h.offer c e = h.evict c ∧ ∃ why, h.deliver c e = .error why := by
  obtain ⟨why, hwhy⟩ := Connection.deliver_of_refuses hr e
  have hdeliver : h.deliver c e = .error why := by rw [deliver, hwhy]; rfl
  refine ⟨?_, why, hdeliver⟩
  rw [offer, hdeliver]

/-- A connection that takes an event has it in its buffer, and nothing else changes. -/
theorem offer_of_not_refuses (hr : ¬(h.connection c).Refuses) (e : Event) :
    h.offer c e = h.setConnection c
        { h.connection c with buffer := (h.connection c).buffer ++ [e] } ∧
      h.deliver c e = .ok (h.offer c e) := by
  have hdeliver : h.deliver c e = .ok (h.setConnection c
      { h.connection c with buffer := (h.connection c).buffer ++ [e] }) := by
    rw [deliver, Connection.deliver_of_not_refuses hr]
    rfl
  have hoffer : h.offer c e = h.setConnection c
      { h.connection c with buffer := (h.connection c).buffer ++ [e] } := by
    rw [offer, hdeliver]
  exact ⟨hoffer, hoffer ▸ hdeliver⟩

/-- An evicted connection is closed and follows nothing. -/
theorem seat_evict (hs : h.subscriptions.Sound) (c c' : ConnectionId) :
    (h.evict c').seat c =
      if c = c' then { (h.seat c).leave with connection := (h.connection c).close }
      else h.seat c := by
  show (((h.unsubscribeAll c').2).setConnection c' (h.connection c').close).seat c = _
  rw [seat_setConnection, seat_unsubscribeAll hs]
  split
  · next hc => rw [hc]
  · rfl

/-- An offer reaches the seat of its connection and no other. -/
theorem seat_offer (hs : h.subscriptions.Sound) (c c' : ConnectionId) (e : Event) :
    (h.offer c' e).seat c = if c = c' then (h.seat c).offer e else h.seat c := by
  by_cases hr : (h.connection c').Refuses
  · rw [(offer_of_refuses hr e).1, seat_evict hs]
    split
    · next hc =>
      subst hc
      exact (if_pos hr).symm
    · rfl
  · rw [(offer_of_not_refuses hr e).1, seat_setConnection]
    split
    · next hc =>
      subst hc
      exact (if_neg hr).symm
    · rfl

@[simp] theorem cache_offer (h : Hub) (c : ConnectionId) (e : Event) :
    (h.offer c e).cache = h.cache := by
  by_cases hr : (h.connection c).Refuses
  · rw [(offer_of_refuses hr e).1]
    rfl
  · rw [(offer_of_not_refuses hr e).1]
    rfl

theorem sound_offer (hs : h.subscriptions.Sound) (c : ConnectionId) (e : Event) :
    (h.offer c e).subscriptions.Sound := by
  by_cases hr : (h.connection c).Refuses
  · rw [(offer_of_refuses hr e).1]
    exact hs.unsubscribeAll c
  · rw [(offer_of_not_refuses hr e).1]
    exact hs

/-- What a round of deliveries leaves behind does not depend on how it counts them. -/
theorem deliverAll_snd (e : Event) (cs : List ConnectionId) (h : Hub) :
    (deliverAll e cs h).2 = cs.foldl (fun h c => h.offer c e) h := by
  induction cs generalizing h with
  | nil => rfl
  | cons c cs ih =>
    rw [List.foldl_cons, ← ih, deliverAll, offer]
    cases h.deliver c e <;> rfl

/-- Offers to some connections reach each of them once. -/
theorem seat_foldl_offer (e : Event) {cs : List ConnectionId} (nodup : cs.Nodup)
    (hs : h.subscriptions.Sound) (c : ConnectionId) :
    (cs.foldl (fun h c => h.offer c e) h).seat c =
      if c ∈ cs then (h.seat c).offer e else h.seat c := by
  induction cs generalizing h with
  | nil => rfl
  | cons c' cs ih =>
    -- a connection that the first offer evicts is none of those that are offered the event later
    obtain ⟨hnew, hnodup⟩ := List.nodup_cons.mp nodup
    rw [List.foldl_cons, ih hnodup (sound_offer hs c' e), seat_offer hs]
    by_cases hc : c = c'
    · subst hc
      simp [hnew]
    · simp [hc]

/-- The two indexes agree after any round of offers. -/
theorem sound_foldl_offer (e : Event) (cs : List ConnectionId) (hs : h.subscriptions.Sound) :
    (cs.foldl (fun h c => h.offer c e) h).subscriptions.Sound := by
  induction cs generalizing h with
  | nil => exact hs
  | cons c cs ih => exact ih (sound_offer hs c e)

theorem cache_foldl_offer (e : Event) (cs : List ConnectionId) (h : Hub) :
    (cs.foldl (fun h c => h.offer c e) h).cache = h.cache := by
  induction cs generalizing h with
  | nil => rfl
  | cons c cs ih => exact (ih (h.offer c e)).trans (cache_offer h c e)

/-! ## Publishing -/

@[simp] theorem seat_settle (h : Hub) (e : Event) (c : ConnectionId) :
    (h.settle e).seat c = h.seat c := by
  unfold settle
  split <;> rfl

@[simp] theorem seat_countDelivered (h : Hub) (n : Nat) (c : ConnectionId) :
    (h.countDelivered n).seat c = h.seat c := rfl

/-- The hub when an event has been stored and not delivered yet. -/
def store (h : Hub) (slot : SlotId) (e : Event) : Hub :=
  { h with
    cache := h.cache.store slot e
    stats := { h.stats with published := h.stats.published + 1 } }

/-- An announcement stores the event and offers it to the followers of its job, one by one. -/
theorem announce_snd (h : Hub) (slot : SlotId) (e : Event) :
    (h.announce slot e).2 =
      (h.subscriptions.connectionsFor e.jobId).foldl (fun h c => h.offer c e) (h.store slot e) :=
  deliverAll_snd e _ _

/-- An event that is announced is offered to the followers of its job. -/
theorem seat_announce (hs : h.subscriptions.Sound) (slot : SlotId) (e : Event) (c : ConnectionId) :
    (h.announce slot e).2.seat c =
      (h.seat c).turn none (if h.subscriptions.Follows c e.jobId then some e else none) := by
  rw [announce_snd]
  refine (seat_foldl_offer (h := h.store slot e) e (Subscriptions.nodup_connectionsFor _ _) hs
    c).trans ?_
  show (if h.subscriptions.Follows c e.jobId then _ else _) = _
  split <;> rfl

theorem sound_announce (hs : h.subscriptions.Sound) (slot : SlotId) (e : Event) :
    (h.announce slot e).2.subscriptions.Sound := by
  rw [announce_snd]
  exact sound_foldl_offer (h := h.store slot e) e _ hs

theorem cache_announce (h : Hub) (slot : SlotId) (e : Event) :
    (h.announce slot e).2.cache = h.cache.store slot e := by
  rw [announce_snd, cache_foldl_offer]
  rfl

theorem sound_settle (hs : h.subscriptions.Sound) (e : Event) :
    (h.settle e).subscriptions.Sound := by
  unfold settle
  split <;> exact hs

/-- A publication is an announcement in the slot of the job, then the clean-up and the count. -/
theorem publish_snd (h : Hub) (e : Event) :
    (h.publish e).2 =
      (((h.takeSlot e.jobId).2.announce (h.takeSlot e.jobId).1 e).2.settle e).countDelivered
        ((h.takeSlot e.jobId).2.announce (h.takeSlot e.jobId).1 e).1 := rfl

/-- The events stored are those that were, with this one in its slot, cleaned up if it is final. -/
theorem cache_publish (h : Hub) (e : Event) :
    (h.publish e).2.cache =
      let stored := (h.cache.takeSlot e.jobId).2.store (h.cache.takeSlot e.jobId).1 e
      if e.status.isTerminal then stored.settle e.jobId else stored := by
  have hcache : ((h.takeSlot e.jobId).2.announce (h.takeSlot e.jobId).1 e).2.cache =
      (h.cache.takeSlot e.jobId).2.store (h.cache.takeSlot e.jobId).1 e := cache_announce _ _ e
  rw [publish_snd, ← hcache]
  unfold settle
  split <;> rfl

/-- A publication is offered to the followers of its job. -/
theorem seat_publish (hs : h.subscriptions.Sound) (e : Event) (c : ConnectionId) :
    (h.publish e).2.seat c =
      (h.seat c).turn none (if h.subscriptions.Follows c e.jobId then some e else none) := by
  rw [publish_snd, seat_countDelivered, seat_settle]
  exact seat_announce (h := (h.takeSlot e.jobId).2) hs (h.takeSlot e.jobId).1 e c

/-! ## Joining -/

/-- A connection that joins follows the job at once if there is no slot to be found. -/
theorem seat_findSlot (h : Hub) (c c' : ConnectionId) (job : JobId) :
    (h.findSlot c' job).2.seat c =
      (h.seat c).turn (if c' = c ∧ h.cache.slots[job]? = none then some job else none) none := by
  unfold findSlot
  cases hslot : h.cache.slots[job]? with
  | some slot => simp [Seat.turn, Seat.offer?]
  | none =>
    show (h.subscribe c' job).2.seat c = _
    rw [seat_subscribe]
    by_cases hc : c = c'
    · rw [if_pos hc, if_pos ⟨hc.symm, rfl⟩]
      rfl
    · rw [if_neg hc, if_neg fun h => hc h.1.symm]
      rfl

theorem sound_findSlot (hs : h.subscriptions.Sound) (c : ConnectionId) (job : JobId) :
    (h.findSlot c job).2.subscriptions.Sound := by
  unfold findSlot
  split
  · exact hs
  · exact hs.subscribe c job

/-- What is delivered when a connection joins, but for the statistics. -/
theorem replay_snd (h : Hub) (c : ConnectionId) (job : JobId) (slot : SlotId) :
    ∃ n, (h.replay c job slot).2 = (match h.cache.cells[slot]? with
      | some e => (h.subscribe c job).2.offer c e
      | none => (h.subscribe c job).2).countDelivered n := by
  have hcells : (h.subscribe c job).2.cache = h.cache := rfl
  unfold replay
  simp only [hcells]
  cases h.cache.cells[slot]? with
  | none => exact ⟨0, rfl⟩
  | some e =>
    by_cases hr : ((h.subscribe c job).2.connection c).Refuses
    · obtain ⟨hevict, why, hdeliver⟩ := offer_of_refuses hr e
      exact ⟨0, by simp only [hdeliver, hevict]; rfl⟩
    · obtain ⟨-, hdeliver⟩ := offer_of_not_refuses hr e
      exact ⟨1, by simp only [hdeliver]⟩

/-- A connection that joins is offered what its slot holds. -/
theorem seat_replay (hs : h.subscriptions.Sound) (c c' : ConnectionId) (job : JobId)
    (slot : SlotId) :
    (h.replay c' job slot).2.seat c =
      (h.seat c).turn (if c' = c then some job else none)
        (if c' = c then h.cache.cells[slot]? else none) := by
  obtain ⟨n, hreplay⟩ := replay_snd h c' job slot
  rw [hreplay, seat_countDelivered]
  by_cases hc : c' = c
  · subst hc
    rw [if_pos rfl, if_pos rfl]
    cases h.cache.cells[slot]? with
    | none => exact (seat_subscribe h c' c' job).trans (if_pos rfl)
    | some e =>
      rw [seat_offer (sound_subscribe hs c' job), seat_subscribe, if_pos rfl, if_pos rfl]
      rfl
  · rw [if_neg hc, if_neg hc]
    cases h.cache.cells[slot]? with
    | none => exact (seat_subscribe h c c' job).trans (if_neg (Ne.symm hc))
    | some e =>
      rw [seat_offer (sound_subscribe hs c' job), seat_subscribe, if_neg (Ne.symm hc),
        if_neg (Ne.symm hc)]
      rfl

theorem sound_replay (hs : h.subscriptions.Sound) (c : ConnectionId) (job : JobId)
    (slot : SlotId) : (h.replay c job slot).2.subscriptions.Sound := by
  obtain ⟨n, hreplay⟩ := replay_snd h c job slot
  rw [hreplay]
  cases h.cache.cells[slot]? with
  | none => exact sound_subscribe hs c job
  | some e => exact sound_offer (sound_subscribe hs c job) c e

@[simp] theorem cache_replay (h : Hub) (c : ConnectionId) (job : JobId) (slot : SlotId) :
    (h.replay c job slot).2.cache = h.cache := by
  obtain ⟨n, hreplay⟩ := replay_snd h c job slot
  rw [hreplay]
  cases h.cache.cells[slot]? with
  | none => rfl
  | some e => exact cache_offer _ c e

/-- A newcomer is replayed the event of the slot, if the job has one, and subscribes in any case. -/
theorem join_snd (h : Hub) (c : ConnectionId) (job : JobId) :
    (h.join c job).2 = match h.cache.slots[job]? with
      | some slot => (h.replay c job slot).2
      | none => (h.subscribe c job).2 := by
  unfold join findSlot
  cases h.cache.slots[job]? <;> rfl

/-- A connection that joins is offered the latest event of the job. -/
theorem seat_join (hs : h.subscriptions.Sound) (c c' : ConnectionId) (job : JobId) :
    (h.join c' job).2.seat c =
      (h.seat c).turn (if c' = c then some job else none)
        (if c' = c then h.latest? job else none) := by
  rw [join_snd]
  unfold latest? EventCache.latest?
  cases h.cache.slots[job]? with
  | none =>
    rw [Option.bind_none, ite_self, seat_subscribe]
    by_cases hc : c = c'
    · rw [if_pos hc, if_pos hc.symm]
      rfl
    · rw [if_neg hc, if_neg (Ne.symm hc)]
      rfl
  | some slot => exact seat_replay hs c c' job slot

theorem sound_join (hs : h.subscriptions.Sound) (c : ConnectionId) (job : JobId) :
    (h.join c job).2.subscriptions.Sound := by
  rw [join_snd]
  cases h.cache.slots[job]? with
  | none => exact sound_subscribe hs c job
  | some slot => exact sound_replay hs c job slot

@[simp] theorem cache_join (h : Hub) (c : ConnectionId) (job : JobId) :
    (h.join c job).2.cache = h.cache := by
  rw [join_snd]
  cases h.cache.slots[job]? with
  | none => rfl
  | some slot => exact cache_replay h c job slot

end Hub

end JobRunner
