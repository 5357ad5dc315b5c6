import JobRunner.Proofs.Streams
import Mathlib.Data.List.Perm.Lattice

/-!
# What becomes of a publication

A publication goes through the followers of its job one after the other. Whoever refuses it is
removed from all its jobs while the others still wait for their turn.

- `Hub.publishTo`: a publication that goes through the followers in an order of its own.
- `Hub.Served`: those that can take the event have got it, the others are gone, and each is counted
  once.
- `Hub.Same`: two hubs that cannot be told apart.
- `HubUse`: a call, a bare subscription, or a delivery that is not the hub's own.
- `Hub.accounts_uses`: whatever a hub has been used for, a publication serves its followers, in
  whatever order it goes through them; and the counts are those of all events that were accepted and
  refused.
-/

namespace JobRunner

/-! ## One delivery -/

namespace Seat

variable {s : Seat}

/-- Who refuses an offer is closed. -/
theorem connection_offer_of_refuses (hr : s.connection.Refuses) (e : Event) :
    (s.offer e).connection = s.connection.close := by
  unfold offer
  rw [if_pos hr]

/-- Who takes an offer has it at the end of its buffer. -/
theorem connection_offer_of_not_refuses (hr : ¬s.connection.Refuses) (e : Event) :
    (s.offer e).connection = { s.connection with buffer := s.connection.buffer ++ [e] } := by
  unfold offer
  rw [if_neg hr]

end Seat

namespace Hub

variable {h h' : Hub} {c c' : ConnectionId} {cs : List ConnectionId} {job : JobId} {e : Event}

/-! ## Going through the followers -/

/-- Records an event as the latest of its job and delivers it to some connections, in their order.
-/
def publishTo (h : Hub) (order : List ConnectionId) (e : Event) : Nat × Hub :=
  let (slot, h) := h.takeSlot e.jobId
  let (delivered, h) := deliverAll e order (h.store slot e)
  (delivered, (h.settle e).countDelivered delivered)

/-- A publication goes through the followers in the order in which they are listed. -/
theorem publish_eq_publishTo (h : Hub) (e : Event) :
    h.publish e = h.publishTo (h.subscriptions.connectionsFor e.jobId) e := rfl

/-- An event delivered to one connection does not show at another. -/
theorem getElem?_connections_offer (h : Hub) (c c' : ConnectionId) (e : Event) :
    (h.offer c' e).connections[c]? =
      if c = c' then some ((h.seat c).offer e).connection else h.connections[c]? := by
  have hset : ∀ (h' : Hub) (connection : Connection),
      (h'.setConnection c' connection).connections[c]? =
        if c = c' then some connection else h'.connections[c]? := by
    intro h' connection
    show (h'.connections.insert c' connection)[c]? = _
    rw [Std.TreeMap.getElem?_insert]
    simp only [Std.LawfulEqCmp.compare_eq_iff_eq, eq_comm (a := c')]
  by_cases hr : (h.connection c').Refuses
  · rw [(offer_of_refuses hr e).1]
    refine (hset (h.unsubscribeAll c').2 (h.connection c').close).trans ?_
    split
    · next hc =>
      subst hc
      rw [Seat.connection_offer_of_refuses hr]
      rfl
    · rfl
  · rw [(offer_of_not_refuses hr e).1, hset]
    split
    · next hc =>
      subst hc
      rw [Seat.connection_offer_of_not_refuses hr]
      rfl
    · rfl

theorem connection_eq_of_getElem?_eq (heq : h'.connections[c]? = h.connections[c]?) :
    h'.connection c = h.connection c := by
  unfold connection
  rw [Std.TreeMap.getD_eq_getD_getElem?, Std.TreeMap.getD_eq_getD_getElem?, heq]

theorem connection_eq_of_getElem?_eq_some {connection : Connection}
    (heq : h.connections[c]? = some connection) : h.connection c = connection := by
  unfold Hub.connection
  rw [Std.TreeMap.getD_eq_getD_getElem?, heq]
  rfl

/-- What one turn does to the connections whose turn comes later: nothing. -/
theorem connection_offer_of_ne (h : Hub) (hc : c ≠ c') (e : Event) :
    (h.offer c' e).connection c = h.connection c := by
  apply connection_eq_of_getElem?_eq
  rw [getElem?_connections_offer, if_neg hc]

/-- Those whose turn is still to come are counted alike before and after a turn. -/
private theorem countP_offer (p : Connection → Bool) (hnew : c ∉ cs) (e : Event) :
    (cs.countP fun c' => p ((h.offer c e).connection c')) =
      cs.countP fun c' => p (h.connection c') := by
  refine List.countP_congr fun c' hc' => ?_
  have hne : c' ≠ c := fun heq => hnew (heq ▸ hc')
  rw [connection_offer_of_ne h hne]

/-- A round of offers reaches the seats of those in the round and no others. -/
theorem getElem?_connections_foldl_offer (nodup : cs.Nodup) (h : Hub) (c : ConnectionId)
    (e : Event) :
    (cs.foldl (fun h c => h.offer c e) h).connections[c]? =
      if c ∈ cs then some ((h.seat c).offer e).connection else h.connections[c]? := by
  induction cs generalizing h with
  | nil => rfl
  | cons c' cs ih =>
    obtain ⟨hnew, hnodup⟩ := List.nodup_cons.mp nodup
    rw [List.foldl_cons, ih hnodup, getElem?_connections_offer]
    by_cases hc : c = c'
    · subst hc
      simp [hnew]
    · have hseat : ((h.offer c' e).seat c).connection = (h.seat c).connection :=
        connection_offer_of_ne h hc e
      have hoffer : (((h.offer c' e).seat c).offer e).connection =
          ((h.seat c).offer e).connection := by
        unfold Seat.offer
        rw [hseat]
        split <;> rfl
      simp [hc, hoffer]

/-- One more connection has refused an event, or none has. -/
theorem stats_offer (h : Hub) (c : ConnectionId) (e : Event) :
    (h.offer c e).stats = { h.stats with
      dropped := h.stats.dropped + if (h.connection c).Refuses then 1 else 0 } := by
  by_cases hr : (h.connection c).Refuses
  · rw [(offer_of_refuses hr e).1, if_pos hr]
    rfl
  · rw [(offer_of_not_refuses hr e).1, if_neg hr]
    rfl

/-- The round counts those who refuse, as they were before it. -/
theorem stats_foldl_offer (nodup : cs.Nodup) (h : Hub) (e : Event) :
    (cs.foldl (fun h c => h.offer c e) h).stats = { h.stats with
      dropped := h.stats.dropped + cs.countP fun c => (h.connection c).Refuses } := by
  induction cs generalizing h with
  | nil => rfl
  | cons c cs ih =>
    obtain ⟨hnew, hnodup⟩ := List.nodup_cons.mp nodup
    have hlater := countP_offer (h := h) (fun connection => connection.Refuses) hnew e
    rw [List.foldl_cons, ih hnodup, hlater, stats_offer, List.countP_cons]
    simp only [decide_eq_true_eq]
    congr 1
    omega

/-- The answer counts the connections that have not refused the event. -/
theorem deliverAll_fst (nodup : cs.Nodup) (h : Hub) (e : Event) :
    (deliverAll e cs h).1 = cs.countP fun c => ¬(h.connection c).Refuses := by
  induction cs generalizing h with
  | nil => rfl
  | cons c cs ih =>
    obtain ⟨hnew, hnodup⟩ := List.nodup_cons.mp nodup
    have hlater := countP_offer (h := h) (fun connection => ¬connection.Refuses) hnew e
    rw [List.countP_cons, ← hlater, ← ih hnodup, deliverAll]
    by_cases hr : (h.connection c).Refuses
    · obtain ⟨hoffer, why, hdeliver⟩ := offer_of_refuses hr e
      rw [hdeliver, hoffer]
      simp [hr]
    · obtain ⟨-, hdeliver⟩ := offer_of_not_refuses hr e
      rw [hdeliver]
      simp [hr]

/-- No connection is opened in a round of offers. -/
theorem nextConnection_foldl_offer (cs : List ConnectionId) (h : Hub) (e : Event) :
    (cs.foldl (fun h c => h.offer c e) h).nextConnection = h.nextConnection := by
  induction cs generalizing h with
  | nil => rfl
  | cons c cs ih =>
    rw [List.foldl_cons, ih]
    by_cases hr : (h.connection c).Refuses
    · rw [(offer_of_refuses hr e).1]
      rfl
    · rw [(offer_of_not_refuses hr e).1]
      rfl

theorem compact_offer (hc : h.subscriptions.Compact) (c : ConnectionId) (e : Event) :
    (h.offer c e).subscriptions.Compact := by
  by_cases hr : (h.connection c).Refuses
  · rw [(offer_of_refuses hr e).1]
    exact hc.unsubscribeAll c
  · rw [(offer_of_not_refuses hr e).1]
    exact hc

/-- Nobody is left with an empty set of jobs after a round of offers. -/
theorem compact_foldl_offer (hc : h.subscriptions.Compact) (cs : List ConnectionId) (e : Event) :
    (cs.foldl (fun h c => h.offer c e) h).subscriptions.Compact := by
  induction cs generalizing h with
  | nil => exact hc
  | cons c cs ih => exact ih (compact_offer hc c e)

/-! ## One publication -/

/-- The followers of the job of an event that can take it. -/
def takers (h : Hub) (e : Event) : List ConnectionId :=
  (h.subscriptions.connectionsFor e.jobId).filter fun c => ¬(h.connection c).Refuses

/-- A publication, answered with a number, has served every follower of its job. -/
structure Served (h : Hub) (e : Event) (answer : Nat) (h' : Hub) : Prop where
  /-- Whoever can take the event has it at the end of its buffer, and follows what it followed. -/
  takes : ∀ c, h.subscriptions.Follows c e.jobId → ¬(h.connection c).Refuses →
    h'.connection c = { h.connection c with buffer := (h.connection c).buffer ++ [e] } ∧
      ∀ job, h'.subscriptions.Follows c job ↔ h.subscriptions.Follows c job
  /-- Whoever cannot is closed with what it has in its buffer, and follows nothing. -/
  refuses : ∀ c, h.subscriptions.Follows c e.jobId → (h.connection c).Refuses →
    (h'.connection c).buffer = (h.connection c).buffer ∧ (h'.connection c).closed = true ∧
      ∀ job, ¬h'.subscriptions.Follows c job
  /-- Nothing happens to those that do not follow the job. -/
  others : ∀ c, ¬h.subscriptions.Follows c e.jobId →
    h'.connections[c]? = h.connections[c]? ∧
      ∀ job, h'.subscriptions.Follows c job ↔ h.subscriptions.Follows c job
  /-- The index by connection says the same. -/
  sound : h'.subscriptions.Sound
  answer : answer = (h.takers e).length
  published : h'.stats.published = h.stats.published + 1
  delivered : h'.stats.delivered = h.stats.delivered + (h.takers e).length
  dropped : h'.stats.dropped = h.stats.dropped +
    ((h.subscriptions.connectionsFor e.jobId).length - (h.takers e).length)

/-- Two hubs with the same connections, entries in both indexes, latest events and counts. -/
structure Same (h h' : Hub) : Prop where
  connections : ∀ c : ConnectionId, h'.connections[c]? = h.connections[c]?
  nextConnection : h'.nextConnection = h.nextConnection
  byJob : ∀ job : JobId, h'.subscriptions.byJob[job]?.map (·.toList) =
    h.subscriptions.byJob[job]?.map (·.toList)
  byConnection : ∀ c : ConnectionId, h'.subscriptions.byConnection[c]?.map (·.toList) =
    h.subscriptions.byConnection[c]?.map (·.toList)
  cache : h'.cache = h.cache
  stats : h'.stats = h.stats

/-- Subscriptions with the same pairs have the same entries. -/
theorem same_entries {s s' : Subscriptions} (hs : s.Sound) (hs' : s'.Sound) (hc : s.Compact)
    (hc' : s'.Compact) (same : ∀ c job, s'.Follows c job ↔ s.Follows c job) :
    (∀ job : JobId, s'.byJob[job]?.map (·.toList) = s.byJob[job]?.map (·.toList)) ∧
      ∀ c : ConnectionId, s'.byConnection[c]?.map (·.toList) =
        s.byConnection[c]?.map (·.toList) := by
  refine ⟨hc'.byJob.map_toList_eq hc.byJob fun job c => ?_,
    hc'.byConnection.map_toList_eq hc.byConnection fun c job => ?_⟩
  · rw [← Subscriptions.follows_iff, ← Subscriptions.follows_iff]
    exact same c job
  · rw [← Subscriptions.mem_jobsFor_iff, ← Subscriptions.mem_jobsFor_iff, hs' c job, hs c job]
    exact same c job

section

variable {order : List ConnectionId}

/-- A publication stores the event, goes through the connections, and settles the job. -/
private theorem publishTo_snd (h : Hub) (order : List ConnectionId) (e : Event) :
    (h.publishTo order e).2 = ((order.foldl (fun h c => h.offer c e)
      ((h.takeSlot e.jobId).2.store (h.takeSlot e.jobId).1 e)).settle e).countDelivered
        (h.publishTo order e).1 := by
  rw [← deliverAll_snd]
  rfl

/-- A publication answers how many of its receivers took the event. -/
private theorem publishTo_fst (nodup : order.Nodup) (h : Hub) (e : Event) :
    (h.publishTo order e).1 = order.countP fun c => ¬(h.connection c).Refuses :=
  deliverAll_fst nodup _ e

/-- A settlement concerns the latest events only. -/
private theorem settle_eq (h : Hub) (e : Event) :
    h.settle e = { h with
      cache := if e.status.isTerminal then h.cache.settle e.jobId else h.cache } := by
  unfold settle
  split <;> rfl

private theorem cache_publishTo (h : Hub) (order : List ConnectionId) (e : Event) :
    (h.publishTo order e).2.cache = if e.status.isTerminal then
        ((h.takeSlot e.jobId).2.store (h.takeSlot e.jobId).1 e).cache.settle e.jobId
      else ((h.takeSlot e.jobId).2.store (h.takeSlot e.jobId).1 e).cache := by
  rw [publishTo_snd]
  show (Hub.settle _ e).cache = _
  rw [settle_eq, cache_foldl_offer]

private theorem nextConnection_publishTo (h : Hub) (order : List ConnectionId) (e : Event) :
    (h.publishTo order e).2.nextConnection = h.nextConnection := by
  rw [publishTo_snd]
  show (Hub.settle _ e).nextConnection = _
  rw [settle_eq, nextConnection_foldl_offer]
  rfl

private theorem connections_publishTo (nodup : order.Nodup) (h : Hub) (c : ConnectionId)
    (e : Event) :
    (h.publishTo order e).2.connections[c]? =
      if c ∈ order then some ((h.seat c).offer e).connection else h.connections[c]? := by
  rw [publishTo_snd]
  show (Hub.settle _ e).connections[c]? = _
  rw [settle_eq, getElem?_connections_foldl_offer nodup]
  rfl

/-- A publication takes those who refuse it off all their jobs, and changes nothing else there. -/
private theorem follows_publishTo (nodup : order.Nodup) (hs : h.subscriptions.Sound)
    (c : ConnectionId) (e : Event) (job : JobId) :
    (h.publishTo order e).2.subscriptions.Follows c job ↔
      h.subscriptions.Follows c job ∧ ¬(c ∈ order ∧ (h.connection c).Refuses) := by
  have hseat := seat_foldl_offer (h := (h.takeSlot e.jobId).2.store (h.takeSlot e.jobId).1 e) e
    nodup hs c
  have hstart : ((h.takeSlot e.jobId).2.store (h.takeSlot e.jobId).1 e).seat c = h.seat c := rfl
  rw [publishTo_snd]
  show (Hub.settle _ e).subscriptions.Follows c job ↔ _
  rw [← seat_follows, seat_settle, hseat, hstart]
  by_cases hc : c ∈ order
  · rw [if_pos hc, Seat.offer_follows, seat_follows]
    simp only [hc, true_and]
    exact and_comm
  · rw [if_neg hc, seat_follows]
    simp [hc]

/-- Every receiver is counted once, as one who took the event or as one who refused it. -/
private theorem stats_publishTo (nodup : order.Nodup) (h : Hub) (e : Event) :
    (h.publishTo order e).2.stats =
      ⟨h.stats.published + 1,
        h.stats.delivered + order.countP fun c => ¬(h.connection c).Refuses,
        h.stats.dropped + order.countP fun c => (h.connection c).Refuses⟩ := by
  rw [publishTo_snd, publishTo_fst nodup]
  show ({ (Hub.settle _ e).stats with delivered := (Hub.settle _ e).stats.delivered + _ } :
    HubStats) = _
  rw [settle_eq, stats_foldl_offer nodup]
  rfl

/-- A publication serves the followers in whatever order it goes through them. -/
theorem served_publishTo (hs : h.subscriptions.Sound)
    (hperm : order.Perm (h.subscriptions.connectionsFor e.jobId)) :
    h.Served e (h.publishTo order e).1 (h.publishTo order e).2 := by
  have nodup : order.Nodup := hperm.symm.nodup (h.subscriptions.nodup_connectionsFor e.jobId)
  have hmem : ∀ c, c ∈ order ↔ h.subscriptions.Follows c e.jobId := fun c => hperm.mem_iff
  have htakers : (order.countP fun c => ¬(h.connection c).Refuses) = (h.takers e).length := by
    rw [hperm.countP_eq, List.countP_eq_length_filter]
    rfl
  have hrefusers : (order.countP fun c => (h.connection c).Refuses) =
      (h.subscriptions.connectionsFor e.jobId).length - (h.takers e).length := by
    have hlength := List.length_eq_countP_add_countP (fun c => (h.connection c).Refuses)
      (l := h.subscriptions.connectionsFor e.jobId)
    rw [hperm.countP_eq]
    simp only [decide_eq_true_eq] at hlength
    rw [← htakers, hperm.countP_eq]
    omega
  have hstats := stats_publishTo nodup h e
  -- a follower has its turn once, and finds itself then as it was at first
  have hconnection : ∀ c, h.subscriptions.Follows c e.jobId →
      (h.publishTo order e).2.connection c = ((h.seat c).offer e).connection := by
    intro c hfollows
    apply connection_eq_of_getElem?_eq_some
    rw [connections_publishTo nodup, if_pos ((hmem c).mpr hfollows)]
  refine {
    takes := fun c hfollows hr => ⟨?_, fun job => ?_⟩
    refuses := fun c hfollows hr => ⟨?_, ?_, fun job => ?_⟩
    others := fun c hfollows => ⟨?_, fun job => ?_⟩
    sound := ?_
    answer := (publishTo_fst nodup h e).trans htakers
    published := congrArg HubStats.published hstats
    delivered := (congrArg HubStats.delivered hstats).trans (by rw [htakers])
    dropped := (congrArg HubStats.dropped hstats).trans (by rw [hrefusers]) }
  · rw [hconnection c hfollows]
    exact Seat.connection_offer_of_not_refuses hr e
  · rw [follows_publishTo nodup hs]
    exact and_iff_left fun h => hr h.2
  · rw [hconnection c hfollows, Seat.connection_offer_of_refuses (s := h.seat c) hr]
    rfl
  · rw [hconnection c hfollows, Seat.connection_offer_of_refuses (s := h.seat c) hr]
    rfl
  · rw [follows_publishTo nodup hs]
    exact fun h => h.2 ⟨(hmem c).mpr hfollows, hr⟩
  · rw [connections_publishTo nodup, if_neg fun hc => hfollows ((hmem c).mp hc)]
  · rw [follows_publishTo nodup hs]
    exact and_iff_left fun h => hfollows ((hmem c).mp h.1)
  · rw [publishTo_snd]
    exact sound_settle (sound_foldl_offer (h := (h.takeSlot e.jobId).2.store _ e) e order hs) e

theorem compact_publishTo (hc : h.subscriptions.Compact) (order : List ConnectionId) (e : Event) :
    (h.publishTo order e).2.subscriptions.Compact := by
  rw [publishTo_snd]
  show (Hub.settle _ e).subscriptions.Compact
  rw [settle_eq]
  exact compact_foldl_offer (h := (h.takeSlot e.jobId).2.store (h.takeSlot e.jobId).1 e) hc order e

/-- The hub after a publication does not show in which order the followers were gone through. -/
theorem same_publishTo (hs : h.subscriptions.Sound) (hc : h.subscriptions.Compact)
    (hperm : order.Perm (h.subscriptions.connectionsFor e.jobId)) :
    (h.publish e).2.Same (h.publishTo order e).2 := by
  have nodup := h.subscriptions.nodup_connectionsFor e.jobId
  have nodup' : order.Nodup := hperm.symm.nodup nodup
  have hfollows : ∀ c job, (h.publishTo order e).2.subscriptions.Follows c job ↔
      (h.publish e).2.subscriptions.Follows c job := by
    intro c job
    rw [publish_eq_publishTo, follows_publishTo nodup' hs, follows_publishTo nodup hs,
      hperm.mem_iff]
  have hentries := same_entries (served_publishTo hs (.refl _)).sound
    (served_publishTo hs hperm).sound (compact_publishTo hc _ e)
    (compact_publishTo hc order e) hfollows
  refine ⟨fun c => ?_, ?_, hentries.1, hentries.2, ?_, ?_⟩
  · rw [publish_eq_publishTo, connections_publishTo nodup', connections_publishTo nodup]
    simp only [hperm.mem_iff]
  · rw [publish_eq_publishTo, nextConnection_publishTo, nextConnection_publishTo]
  · rw [publish_eq_publishTo, cache_publishTo, cache_publishTo]
  · rw [publish_eq_publishTo, stats_publishTo nodup', stats_publishTo nodup, hperm.countP_eq,
      hperm.countP_eq]

end

end Hub

/-! ## Uses of a hub -/

/-- The connections to which a call delivers an event. -/
def HubCall.receivers (h : Hub) : HubCall → List ConnectionId
  | publish e => h.subscriptions.connectionsFor e.jobId
  | visit (.join c job) => if (h.latest? job).isSome then [c] else []
  | _ => []

/-- A use of a hub. -/
inductive HubUse where
  | call (call : HubCall)
  /-- A connection is subscribed without replay. -/
  | subscribe (c : ConnectionId) (job : JobId)
  /-- Somebody delivers an event to a connection. -/
  | deliver (c : ConnectionId) (e : Event)

namespace HubUse

/-- What a use leaves behind. -/
def act (h : Hub) : HubUse → Hub
  | call x => x.act h
  | subscribe c job => (h.subscribe c job).2
  | deliver c e => (h.deliver c e).toOption.getD h

/-- The event that a use publishes. -/
def event? : HubUse → Option Event
  | call x => x.event?
  | subscribe _ _ | deliver _ _ => none

end HubUse

namespace Hub

variable {h h' : Hub} {c : ConnectionId} {call : HubCall} {job : JobId}

/-- The hub after some uses. -/
def uses (h : Hub) (us : List HubUse) : Hub := us.foldl HubUse.act h

/-- The events that stand new in the buffer of a connection. -/
def arrivalsAt (h h' : Hub) (c : ConnectionId) : List Event :=
  (h'.connection c).buffer.drop (h.connection c).buffer.length

/-- The events that stand new in the buffers of all connections. -/
def arrivals (h h' : Hub) : List (ConnectionId × Event) :=
  h'.connections.keys.flatMap fun c => (arrivalsAt h h' c).map (c, ·)

/-- The events that connections accept when the hub delivers them: those published, and those
replayed to who joins. -/
def accepts (h : Hub) : HubUse → List (ConnectionId × Event)
  | .call x => arrivals h (x.act h)
  | .subscribe _ _ | .deliver _ _ => []

/-- The connections that refuse what the hub delivers to them. -/
def refusals (h : Hub) : HubUse → List ConnectionId
  | .call x => (x.receivers h).filter fun c => (h.connection c).Refuses
  | .subscribe _ _ | .deliver _ _ => []

/-- The receivers of a call are those for whom it has an event. -/
theorem mem_receivers (h : Hub) (call : HubCall) (c : ConnectionId) :
    c ∈ call.receivers h ↔ (call.delivery? h c).isSome = true := by
  cases call with
  | publish e =>
    show h.subscriptions.Follows c e.jobId ↔ _
    simp only [HubCall.delivery?]
    split
    · next hfollows => simp [hfollows]
    · next hfollows => simp [hfollows]
  | forget j => simp [HubCall.receivers, HubCall.delivery?]
  | visit v =>
    cases v with
    | join c' j =>
      simp only [HubCall.receivers, HubCall.delivery?]
      by_cases hc : c' = c
      · subst hc
        cases h.latest? j <;> simp
      · have hne : c ≠ c' := Ne.symm hc
        cases h.latest? j <;> simp [hc, hne]
    | _ => simp [HubCall.receivers, HubCall.delivery?]

/-- No call has a receiver twice. -/
theorem nodup_receivers (h : Hub) (call : HubCall) : (call.receivers h).Nodup := by
  cases call with
  | publish e => exact h.subscriptions.nodup_connectionsFor e.jobId
  | forget j => exact List.nodup_nil
  | visit v =>
    cases v with
    | join c j =>
      simp only [HubCall.receivers]
      split
      · exact List.nodup_singleton c
      · exact List.nodup_nil
    | _ => exact List.nodup_nil

/-- What is delivered arrives unless the connection refuses it, and nothing else does. -/
theorem arrivalsAt_act (hs : h.Sound) (call : HubCall) (c : ConnectionId) :
    arrivalsAt h (call.act h) c =
      if (h.connection c).Refuses then [] else (call.delivery? h c).toList := by
  -- what arrives at a seat depends on its turn only
  have hturn : ∀ {h' : Hub} {joins : Option JobId} {delivers : Option Event},
      h'.seat c = (h.seat c).turn joins delivers →
      arrivalsAt h h' c = if (h.connection c).Refuses then [] else delivers.toList := by
    intro h' joins delivers heq
    have hbuffer : (h'.connection c).buffer = _ :=
      (congrArg (·.connection.buffer) heq).trans (Seat.turn_buffer _ _ _)
    rw [arrivalsAt, hbuffer]
    exact List.drop_left
  cases call with
  | publish e => exact hturn (seat_publish hs.subscriptions e c)
  | forget j =>
    rw [show (HubCall.forget j).delivery? h c = none from rfl, Option.toList_none, ite_self]
    exact List.drop_length
  | visit v =>
    by_cases hjoin : ∀ c job, v ≠ .join c job
    · -- an event that has arrived would be one accepted of its job
      have hnone : arrivalsAt h (v.act h) c = [] := by
        refine List.eq_nil_iff_forall_not_mem.mpr fun e he => ?_
        have haccepted := accepted_visit (h := h) hjoin c e.jobId
        have hmem : e ∈ accepted h (v.act h) c e.jobId :=
          List.mem_filter.mpr ⟨he, decide_eq_true rfl⟩
        rw [haccepted] at hmem
        cases hmem
      have hdelivery : (HubCall.visit v).delivery? h c = none := by
        cases v with
        | join c' j => exact absurd rfl (hjoin c' j)
        | _ => rfl
      rw [hdelivery, Option.toList_none, ite_self]
      exact hnone
    · obtain ⟨c', j, rfl⟩ : ∃ c' j, v = .join c' j := by simpa using hjoin
      exact hturn (seat_join hs.subscriptions c c' j)

/-- What has one element for the members of a list that pass a test, and none for the others, has
as many elements as pass it. -/
private theorem length_flatMap_of_test {α β : Type} {f : α → List β} {p : α → Bool} (l : List α)
    (hf : ∀ a, (f a).length = if p a then 1 else 0) :
    (l.flatMap f).length = (l.filter p).length := by
  induction l with
  | nil => rfl
  | cons a l ih =>
    rw [List.flatMap_cons, List.length_append, ih, hf, List.filter_cons]
    cases p a <;> simp [Nat.add_comm]

/-- As many events arrive as there are receivers that do not refuse. -/
theorem length_arrivals_act (hs : h.Sound) (call : HubCall) :
    (arrivals h (call.act h)).length =
      (call.receivers h).countP fun c => ¬(h.connection c).Refuses := by
  have harrivals := arrivalsAt_act hs call
  have hlength : ∀ c, ((arrivalsAt h (call.act h) c).map (c, ·)).length =
      if ((call.receivers h).filter fun c => ¬(h.connection c).Refuses).contains c then 1
      else 0 := by
    intro c
    have hmem := mem_receivers h call c
    rw [List.length_map, harrivals]
    by_cases hr : (h.connection c).Refuses
    · simp [hr]
    · cases hdelivery : call.delivery? h c with
      | none =>
        rw [hdelivery] at hmem
        simp [hr, hmem]
      | some e =>
        rw [hdelivery] at hmem
        simp [hr, hmem]
  -- a connection that is not in the table has an empty buffer
  have hknown : ∀ c ∈ (call.receivers h).filter fun c => ¬(h.connection c).Refuses,
      c ∈ (call.act h).connections.keys := by
    intro c hc
    by_contra hunknown
    have hnone : (call.act h).connection c = ⟨0, [], true, false⟩ :=
      Std.TreeMap.getD_eq_fallback fun hin => hunknown (Std.TreeMap.mem_keys.mpr hin)
    have hlen := hlength c
    rw [if_pos (List.contains_iff_mem.mpr hc), List.length_map, arrivalsAt, hnone] at hlen
    simp at hlen
  have hperm : ((call.act h).connections.keys.filter fun c =>
      ((call.receivers h).filter fun c => ¬(h.connection c).Refuses).contains c).Perm
        ((call.receivers h).filter fun c => ¬(h.connection c).Refuses) := by
    rw [List.perm_ext_iff_of_nodup ((nodup_keys _).filter _) ((nodup_receivers h call).filter _)]
    intro c
    rw [List.mem_filter, List.contains_iff_mem]
    exact and_iff_right_of_imp (hknown c)
  rw [arrivals, length_flatMap_of_test _ hlength, hperm.length_eq, List.countP_eq_length_filter]

/-! ## The counts -/

/-- A replay is counted as a delivery, or as a refusal. -/
theorem stats_join (h : Hub) (c : ConnectionId) (job : JobId) :
    (h.join c job).2.stats = ⟨h.stats.published,
      h.stats.delivered + ((HubCall.visit (.join c job)).receivers h).countP
        (fun c => ¬(h.connection c).Refuses),
      h.stats.dropped + ((HubCall.visit (.join c job)).receivers h).countP
        fun c => (h.connection c).Refuses⟩ := by
  have hcells : (h.subscribe c job).2.cache = h.cache := rfl
  have hsame : (h.subscribe c job).2.connection c = h.connection c := rfl
  have hstats : (h.subscribe c job).2.stats = h.stats := rfl
  rw [join_snd, HubCall.receivers, latest?, EventCache.latest?]
  cases h.cache.slots[job]? with
  | none => rfl
  | some slot =>
    rw [Option.bind_some]
    unfold replay
    simp only [hcells]
    cases h.cache.cells[slot]? with
    | none => rfl
    | some e =>
      -- the replayed event is refused or taken like any other
      by_cases hr : (h.connection c).Refuses
      · obtain ⟨hoffer, why, hdeliver⟩ :=
          offer_of_refuses (h := (h.subscribe c job).2) (hsame ▸ hr) e
        have hevict := stats_offer (h.subscribe c job).2 c e
        rw [hoffer, hsame, if_pos hr, hstats] at hevict
        simp only [hdeliver]
        simp [hevict, hr]
      · obtain ⟨-, hdeliver⟩ :=
          offer_of_not_refuses (h := (h.subscribe c job).2) (hsame ▸ hr) e
        have htaken := stats_offer (h.subscribe c job).2 c e
        rw [hsame, if_neg hr, hstats] at htaken
        simp only [hdeliver, countDelivered]
        simp [htaken, hr]

/-- What a call adds to the counts. -/
theorem stats_act (hs : h.Sound) (call : HubCall) :
    (call.act h).stats = ⟨h.stats.published + call.event?.toList.length,
      h.stats.delivered + (accepts h (.call call)).length,
      h.stats.dropped + (refusals h (.call call)).length⟩ := by
  rw [accepts, refusals, length_arrivals_act hs, ← List.countP_eq_length_filter]
  cases call with
  | publish e => exact stats_publishTo (h.subscriptions.nodup_connectionsFor e.jobId) h e
  | forget j => rfl
  | visit v =>
    cases v with
    | join c j => exact stats_join h c j
    | _ => rfl

/-! ## All uses -/

theorem compact_join (hc : h.subscriptions.Compact) (c : ConnectionId) (job : JobId) :
    (h.join c job).2.subscriptions.Compact := by
  have hjoined : (h.subscribe c job).2.subscriptions.Compact := hc.subscribe c job
  rw [join_snd]
  cases h.cache.slots[job]? with
  | none => exact hjoined
  | some slot =>
    obtain ⟨n, hreplay⟩ := replay_snd h c job slot
    dsimp only
    rw [hreplay]
    cases h.cache.cells[slot]? with
    | none => exact hjoined
    | some e => exact compact_offer hjoined c e

/-- Nobody is left with an empty set of jobs after a call. -/
theorem compact_act (hc : h.subscriptions.Compact) (call : HubCall) :
    (call.act h).subscriptions.Compact := by
  cases call with
  | publish e => exact compact_publishTo hc (h.subscriptions.connectionsFor e.jobId) e
  | forget j => exact hc
  | visit v =>
    cases v with
    | join c j => exact compact_join hc c j
    | unsubscribe c j => exact hc.unsubscribe c j
    | disconnect c => exact hc.unsubscribeAll c
    | openConnection | take | close | abandon => exact hc

/-- A delivery that is not the hub's own concerns the connections only. -/
private theorem deliver_keeps (h : Hub) (c : ConnectionId) (e : Event) :
    ∃ connections, (h.deliver c e).toOption.getD h = { h with connections } := by
  by_cases hr : (h.connection c).Refuses
  · obtain ⟨-, why, hdeliver⟩ := offer_of_refuses hr e
    exact ⟨h.connections, by rw [hdeliver]; rfl⟩
  · obtain ⟨hoffer, hdeliver⟩ := offer_of_not_refuses hr e
    exact ⟨_, by rw [hdeliver, hoffer]; rfl⟩

/-- What all uses keep: the indexes agree, have no empty entries, and no slot serves two jobs. -/
private structure Kept (h : Hub) : Prop where
  sound : h.Sound
  compact : h.subscriptions.Compact

/-- No call to the hub loses track of anybody. -/
private theorem Kept.act (hk : h.Kept) (u : HubUse) : (u.act h).Kept := by
  cases u with
  | call x => exact ⟨hk.sound.act x, compact_act hk.compact x⟩
  | subscribe c j =>
    exact ⟨⟨hk.sound.subscriptions.subscribe c j, hk.sound.cache⟩, hk.compact.subscribe c j⟩
  | deliver c e =>
    obtain ⟨connections, heq⟩ := deliver_keeps h c e
    show ((h.deliver c e).toOption.getD h).Kept
    rw [heq]
    exact ⟨⟨hk.sound.subscriptions, hk.sound.cache⟩, hk.compact⟩

/-- What a use adds to the counts. -/
private theorem Kept.stats_act (hk : h.Kept) (u : HubUse) :
    (u.act h).stats = ⟨h.stats.published + u.event?.toList.length,
      h.stats.delivered + (accepts h u).length, h.stats.dropped + (refusals h u).length⟩ := by
  cases u with
  | call x => exact Hub.stats_act hk.sound x
  | subscribe c j => rfl
  | deliver c e =>
    obtain ⟨connections, heq⟩ := deliver_keeps h c e
    show ((h.deliver c e).toOption.getD h).stats = _
    rw [heq]
    rfl

/-- Nor does any number of calls. -/
private theorem Kept.uses (hk : h.Kept) (us : List HubUse) : (h.uses us).Kept := by
  induction us generalizing h with
  | nil => exact hk
  | cons u us ih => exact ih (hk.act u)

/-- The counters count what was published, taken and refused. -/
private theorem Kept.stats_uses (hk : h.Kept) (us : List HubUse) :
    (h.uses us).stats = ⟨h.stats.published + (us.filterMap HubUse.event?).length,
      h.stats.delivered + (collect HubUse.act accepts h us).length,
      h.stats.dropped + (collect HubUse.act refusals h us).length⟩ := by
  induction us generalizing h with
  | nil => rfl
  | cons u us ih =>
    have hevents : ((u :: us).filterMap HubUse.event?).length =
        u.event?.toList.length + (us.filterMap HubUse.event?).length := by
      rw [List.filterMap_cons]
      cases u.event? with
      | none => exact (Nat.zero_add _).symm
      | some e => exact Nat.add_comm _ _
    have hlater := ih (hk.act u)
    rw [hk.stats_act u] at hlater
    refine hlater.trans ?_
    rw [collect, collect, List.length_append, List.length_append, hevents]
    simp only [Nat.add_assoc]

private theorem kept_empty (capacity : Nat) : (empty capacity).Kept :=
  ⟨sound_empty capacity, Subscriptions.compact_empty⟩

/-- Whatever a hub has been used for, a publication serves the followers of its job in any order
alike, and the hub has counted the events published, accepted and refused. -/
theorem accounts_uses (capacity : Nat) (us : List HubUse) :
    let h := (empty capacity).uses us
    (∀ (e : Event) (order : List ConnectionId),
      order.Perm (h.subscriptions.connectionsFor e.jobId) →
        h.Served e (h.publishTo order e).1 (h.publishTo order e).2 ∧
          (h.publishTo order e).1 = (h.publish e).1 ∧
          (h.publish e).2.Same (h.publishTo order e).2) ∧
      h.stats = ⟨(us.filterMap HubUse.event?).length,
        (collect HubUse.act accepts (empty capacity) us).length,
        (collect HubUse.act refusals (empty capacity) us).length⟩ := by
  intro h
  have hk : h.Kept := (kept_empty capacity).uses us
  refine ⟨fun e order hperm => ?_, ?_⟩
  · have hserved := served_publishTo hk.sound.subscriptions hperm
    have hlisted := served_publishTo (e := e) hk.sound.subscriptions (.refl _)
    exact ⟨hserved, hserved.answer.trans hlisted.answer.symm,
      same_publishTo hk.sound.subscriptions hk.compact hperm⟩
  · have hnone : (empty capacity).stats = ⟨0, 0, 0⟩ := rfl
    have hstats := (kept_empty capacity).stats_uses us
    rw [hnone] at hstats
    simpa only [Nat.zero_add] using hstats

/-- Two connections join a job, and nobody reads from the first of them any more. -/
def deafUses : List HubUse :=
  [.call (.visit (.openConnection 1)), .call (.visit (.openConnection 1)),
    .call (.visit (.join 0 .nil)), .call (.visit (.join 1 .nil)), .call (.visit (.abandon 0))]

/-- Even when the abandoned connection has its turn last, it is the only one to miss the event. -/
theorem accounts_of_deafUses :
    let h := (empty 1).uses deafUses
    let e := Event.ofStatus .nil .processing none none
    let h' := (h.publishTo [1, 0] e).2
    [1, 0].Perm (h.subscriptions.connectionsFor .nil) ∧ (h.publishTo [1, 0] e).1 = 1 ∧
      (h'.connection 1).buffer = [e] ∧ (h'.connection 0).closed = true ∧
      h'.stats = ⟨1, 1, 1⟩ := by
  intro h e h'
  have hperm : [1, 0].Perm (h.subscriptions.connectionsFor e.jobId) := by decide +kernel
  have hcount : h.stats = ⟨0, 0, 0⟩ ∧ (h.takers e).length = 1 ∧
      (h.subscriptions.connectionsFor e.jobId).length = 2 := by decide +kernel
  have hone : h.subscriptions.Follows 1 e.jobId ∧ ¬(h.connection 1).Refuses := by decide +kernel
  have hzero : h.subscriptions.Follows 0 e.jobId ∧ (h.connection 0).Refuses := by decide +kernel
  obtain ⟨served, -, -⟩ := (accounts_uses 1 deafUses).1 e [1, 0] hperm
  obtain ⟨hstats, htakers, hfollowers⟩ := hcount
  refine ⟨hperm, served.answer.trans htakers, ?_, (served.refuses 0 hzero.1 hzero.2).2.1, ?_⟩
  · have hbuffer : (h.connection 1).buffer = [] := by decide +kernel
    rw [(served.takes 1 hone.1 hone.2).1, hbuffer]
    rfl
  · have hpublished := served.published
    have hdelivered := served.delivered
    have hdropped := served.dropped
    rw [hstats] at hpublished hdelivered hdropped
    rw [htakers] at hdelivered hdropped
    rw [hfollowers] at hdropped
    calc h'.stats
        = ⟨h'.stats.published, h'.stats.delivered, h'.stats.dropped⟩ := rfl
      _ = ⟨1, 1, 1⟩ := by rw [hpublished, hdelivered, hdropped]

end Hub

end JobRunner
