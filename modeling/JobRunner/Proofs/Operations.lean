import JobRunner.Proofs.Sections

/-!
# The hub in its smallest steps

The sections of a call take one lock after the other, and deliveries of one publication may come
between any two operations of a session. Here is what happens under one lock.

- `HubOp`: one operation on the registry, on one buffer, or on the latest events.
- `HubOp.owner?`: the connection whose session alone makes an operation.
- `HubOp.seat_act`: what an operation of others does to a connection: it delivers one event, ends
  all subscriptions, or closes.
- `HubOp.seat_act_of_on`: what an operation on one connection does to the others, which is nothing.
- `HubTask.operated`, `HubCall.operated`: every section and every call is made of operations, and
  those of others are made of operations of others.
-/

namespace JobRunner

/-! ## Operations -/

/-- One operation on a hub. -/
inductive HubOp where
  | openConnection (room : Nat)
  | subscribe (c : ConnectionId) (job : JobId)
  | unsubscribe (c : ConnectionId) (job : JobId)
  | unsubscribeAll (c : ConnectionId)
  /-- Delivers an event to a connection, if it does not refuse it. -/
  | deliver (c : ConnectionId) (e : Event)
  | close (c : ConnectionId)
  | take (c : ConnectionId) (most : Nat)
  | abandon (c : ConnectionId)
  /-- The latest events or the counts become others. -/
  | note (cache : EventCache) (stats : HubStats)

namespace HubOp

/-- What an operation leaves behind. -/
def act (h : Hub) : HubOp → Hub
  | openConnection room => (h.openConnection room).2
  | subscribe c job => (h.subscribe c job).2
  | unsubscribe c job => (h.unsubscribe c job).2
  | unsubscribeAll c => (h.unsubscribeAll c).2
  | deliver c e => (h.deliver c e).toOption.getD h
  | close c => h.close c
  | take c most => (h.take c most).2
  | abandon c => h.abandon c
  | note cache stats => { h with cache, stats }

/-- The connection whose session alone makes an operation. -/
def owner? : HubOp → Option ConnectionId
  | subscribe c _ | unsubscribe c _ | take c _ | abandon c => some c
  | openConnection _ | unsubscribeAll _ | deliver _ _ | close _ | note _ _ => none

variable {h : Hub} {c : ConnectionId}

/-- Who refuses an event keeps what it had. -/
theorem act_deliver_of_refuses (hr : (h.connection c).Refuses) (e : Event) :
    (deliver c e).act h = h := by
  obtain ⟨-, why, hdeliver⟩ := Hub.offer_of_refuses hr e
  rw [act, hdeliver]
  rfl

/-- Who takes it has it at the end of its buffer. -/
theorem act_deliver_of_not_refuses (hr : ¬(h.connection c).Refuses) (e : Event) :
    (deliver c e).act h =
      h.setConnection c { h.connection c with buffer := (h.connection c).buffer ++ [e] } := by
  obtain ⟨hoffer, hdeliver⟩ := Hub.offer_of_not_refuses hr e
  rw [act, hdeliver, ← hoffer]
  rfl

/-- The two indexes agree after any operation. -/
theorem sound_act (hs : h.subscriptions.Sound) (op : HubOp) : (op.act h).subscriptions.Sound := by
  cases op with
  | subscribe c job => exact hs.subscribe c job
  | unsubscribe c job => exact hs.unsubscribe c job
  | unsubscribeAll c => exact hs.unsubscribeAll c
  | deliver c e =>
    by_cases hr : (h.connection c).Refuses
    · rw [act_deliver_of_refuses hr]
      exact hs
    · rw [act_deliver_of_not_refuses hr]
      exact hs
  | openConnection | close | take | abandon | note => exact hs

/-- The numbers of connections are not used again. -/
theorem nextConnection_le_act (h : Hub) (op : HubOp) :
    h.nextConnection ≤ (op.act h).nextConnection := by
  cases op with
  | openConnection room => exact Nat.le_succ _
  | deliver c e =>
    by_cases hr : (h.connection c).Refuses
    · exact Nat.le_of_eq (congrArg Hub.nextConnection (act_deliver_of_refuses hr e)).symm
    · exact Nat.le_of_eq (congrArg Hub.nextConnection (act_deliver_of_not_refuses hr e)).symm
  | _ => exact Nat.le_refl _

end HubOp

/-- What others do to a connection. -/
inductive Seat.Nudge (s : Seat) : Seat → Prop
  | still : Nudge s s
  | accept (e : Event) (accepts : ¬s.connection.Refuses) :
    Nudge s { s with connection := { s.connection with buffer := s.connection.buffer ++ [e] } }
  | leave : Nudge s s.leave
  | close : Nudge s { s with connection := s.connection.close }

/-- A nudge never makes anybody follow a job. -/
theorem Seat.Nudge.follows {s s' : Seat} (h : s.Nudge s') {job : JobId} (hjob : s'.follows job) :
    s.follows job := by
  cases h with
  | leave => cases hjob
  | still | accept | close => exact hjob

/-- Nor does it open a connection that was closed. -/
theorem Seat.Nudge.closed {s s' : Seat} (h : s.Nudge s') (hclosed : s.connection.closed = true) :
    s'.connection.closed = true := by
  cases h with
  | close => rfl
  | still | accept | leave => exact hclosed

/-- Others only add to a buffer. -/
theorem Seat.Nudge.buffer {s s' : Seat} (h : s.Nudge s') :
    ∃ es, s'.connection.buffer = s.connection.buffer ++ es := by
  cases h with
  | accept e => exact ⟨[e], rfl⟩
  | still | leave | close => exact ⟨[], (List.append_nil _).symm⟩

namespace HubOp

variable {h : Hub} {c c' : ConnectionId}

/-- An operation on another connection does nothing to a connection that is open already. -/
theorem seat_deliver (c c' : ConnectionId) (e : Event) :
    ((deliver c' e).act h).seat c = if c = c' ∧ ¬(h.connection c).Refuses then
      { h.seat c with connection :=
        { h.connection c with buffer := (h.connection c).buffer ++ [e] } } else h.seat c := by
  by_cases hr : (h.connection c').Refuses
  · rw [act_deliver_of_refuses hr, if_neg]
    rintro ⟨rfl, hnot⟩
    exact hnot hr
  · rw [act_deliver_of_not_refuses hr, Hub.seat_setConnection]
    by_cases hc : c = c'
    · subst hc
      rw [if_pos rfl, if_pos ⟨rfl, hr⟩]
    · rw [if_neg hc, if_neg fun hand => hc hand.1]

/-- Others deliver to a connection, end its subscriptions or close it, and that is all. -/
theorem seat_act (hs : h.subscriptions.Sound) (hc : c < h.nextConnection) {op : HubOp}
    (foreign : op.owner? ≠ some c) : (h.seat c).Nudge ((op.act h).seat c) := by
  -- an operation on another connection leaves the seat as it is
  have hset : ∀ {c'} {connection : Connection}, c' ≠ c →
      (h.setConnection c' connection).seat c = h.seat c :=
    fun hne => (Hub.seat_setConnection h c _ _).trans (if_neg (Ne.symm hne))
  cases op with
  | openConnection room =>
    have hseat : ((openConnection room).act h).seat c = h.seat c := hset (Nat.ne_of_gt hc)
    rw [hseat]
    exact .still
  | subscribe c' job =>
    have hne : c ≠ c' := fun heq => foreign (congrArg some heq.symm)
    rw [act, Hub.seat_subscribe, if_neg hne]
    exact .still
  | unsubscribe c' job =>
    have hne : c ≠ c' := fun heq => foreign (congrArg some heq.symm)
    have hseat : ((unsubscribe c' job).act h).seat c = h.seat c :=
      Seat.ext rfl <| funext fun j =>
        propext (Subscriptions.follows_unsubscribe.trans (by simp [hne]))
    rw [hseat]
    exact .still
  | unsubscribeAll c' =>
    rw [act, Hub.seat_unsubscribeAll hs]
    split
    · exact .leave
    · exact .still
  | deliver c' e =>
    rw [seat_deliver]
    split
    · next hand => exact .accept e hand.2
    · exact .still
  | close c' =>
    rw [act, Hub.close, Hub.seat_setConnection]
    split
    · next heq =>
      subst heq
      exact .close
    · exact .still
  | take c' most =>
    have hseat : ((take c' most).act h).seat c = h.seat c :=
      hset fun heq => foreign (congrArg some heq)
    rw [hseat]
    exact .still
  | abandon c' =>
    have hseat : ((abandon c').act h).seat c = h.seat c :=
      hset fun heq => foreign (congrArg some heq)
    rw [hseat]
    exact .still
  | note cache stats => exact .still

end HubOp

/-! ## Operations on one connection -/

namespace HubOp

/-- An operation on a connection, or on none. -/
def On (c : ConnectionId) : HubOp → Prop
  | subscribe c' _ | unsubscribe c' _ | unsubscribeAll c' | deliver c' _ | close c' | take c' _
  | abandon c' => c' = c
  | note _ _ => True
  | openConnection _ => False

variable {h : Hub} {c c' : ConnectionId}

/-- An operation on a connection does nothing to the others. -/
theorem seat_act_of_on (hs : h.subscriptions.Sound) {op : HubOp} (hon : op.On c') (hne : c ≠ c') :
    (op.act h).seat c = h.seat c := by
  cases op with
  | openConnection => cases hon
  | subscribe _ job =>
    obtain rfl := hon
    exact (Hub.seat_subscribe h c _ job).trans (if_neg hne)
  | unsubscribe _ job =>
    obtain rfl := hon
    refine Seat.ext rfl (funext fun j => propext (Subscriptions.follows_unsubscribe.trans ?_))
    simp [hne]
  | unsubscribeAll _ =>
    obtain rfl := hon
    exact (Hub.seat_unsubscribeAll hs c _).trans (if_neg hne)
  | deliver _ e =>
    obtain rfl := hon
    exact (seat_deliver c _ e).trans (if_neg fun hand => hne hand.1)
  | close | take | abandon =>
    obtain rfl := hon
    exact (Hub.seat_setConnection h c _ _).trans (if_neg hne)
  | note => rfl

/-- An operation that takes events out of the buffer of a connection. -/
def Drains (c : ConnectionId) : HubOp → Prop
  | take c' _ | abandon c' => c' = c
  | _ => False

/-- Events are only added to a buffer that no operation drains. -/
theorem buffer_act (hs : h.subscriptions.Sound) (hc : c < h.nextConnection) {op : HubOp}
    (keeps : ¬op.Drains c) :
    ∃ es, ((op.act h).connection c).buffer = (h.connection c).buffer ++ es := by
  have hsame : (op.act h).connection c = h.connection c →
      ∃ es, ((op.act h).connection c).buffer = (h.connection c).buffer ++ es :=
    fun heq => ⟨[], by rw [heq, List.append_nil]⟩
  have hothers : op.owner? ≠ some c →
      ∃ es, ((op.act h).connection c).buffer = (h.connection c).buffer ++ es :=
    fun foreign => (seat_act hs hc foreign).buffer
  cases op with
  | subscribe | unsubscribe => exact hsame rfl
  | take c' | abandon c' =>
    have hne : c ≠ c' := fun heq => keeps heq.symm
    exact hsame ((Hub.connection_setConnection h c _ _).trans (if_neg hne))
  | openConnection | unsubscribeAll | deliver | close | note =>
    exact hothers nofun

theorem sound_foldl_act (hs : h.subscriptions.Sound) (ops : List HubOp) :
    (ops.foldl act h).subscriptions.Sound := by
  induction ops generalizing h with
  | nil => exact hs
  | cons op ops ih => exact ih (sound_act hs op)

theorem nextConnection_le_foldl_act (h : Hub) (ops : List HubOp) :
    h.nextConnection ≤ (ops.foldl act h).nextConnection := by
  induction ops generalizing h with
  | nil => exact Nat.le_refl _
  | cons op ops ih => exact Nat.le_trans (nextConnection_le_act h op) (ih _)

/-- Operations on another connection leave a seat alone. -/
theorem seat_foldl_act_of_on (hs : h.subscriptions.Sound) {ops : List HubOp}
    (hon : ∀ op ∈ ops, op.On c') (hne : c ≠ c') : (ops.foldl act h).seat c = h.seat c := by
  induction ops generalizing h with
  | nil => rfl
  | cons op ops ih =>
    obtain ⟨hop, hops⟩ := List.forall_mem_cons.mp hon
    exact (ih (sound_act hs op) hops).trans (seat_act_of_on hs hop hne)

/-- Only the one who drains it takes anything out of a buffer. -/
theorem buffer_foldl_act (hs : h.subscriptions.Sound) (hc : c < h.nextConnection)
    {ops : List HubOp} (keeps : ∀ op ∈ ops, ¬op.Drains c) :
    ∃ es, ((ops.foldl act h).connection c).buffer = (h.connection c).buffer ++ es := by
  induction ops generalizing h with
  | nil => exact ⟨[], (List.append_nil _).symm⟩
  | cons op ops ih =>
    obtain ⟨hop, hops⟩ := List.forall_mem_cons.mp keeps
    obtain ⟨es, hes⟩ := buffer_act hs hc hop
    obtain ⟨es', hes'⟩ :=
      ih (sound_act hs op) (Nat.lt_of_lt_of_le hc (nextConnection_le_act h op)) hops
    exact ⟨es ++ es', by rw [List.foldl_cons, hes', hes, List.append_assoc]⟩

end HubOp

/-! ## Sections and calls -/

namespace Hub

variable {h h' : Hub} {c : ConnectionId}

/-- One hub comes from another by operations, none of which is made by the session of `c`. -/
def Operated (c : ConnectionId) (h h' : Hub) : Prop :=
  ∃ ops : List HubOp, (∀ op ∈ ops, op.owner? ≠ some c) ∧ h' = ops.foldl HubOp.act h

namespace Operated

theorem refl (c : ConnectionId) (h : Hub) : Operated c h h := ⟨[], nofun, rfl⟩

/-- What others do, they can do one after the other. -/
theorem trans {h₁ h₂ h₃ : Hub} (h₁₂ : Operated c h₁ h₂) (h₂₃ : Operated c h₂ h₃) :
    Operated c h₁ h₃ := by
  obtain ⟨ops, hops, rfl⟩ := h₁₂
  obtain ⟨ops', hops', rfl⟩ := h₂₃
  refine ⟨ops ++ ops', fun op hop => ?_, List.foldl_append.symm⟩
  exact (List.mem_append.mp hop).elim (hops op) (hops' op)

theorem one (op : HubOp) (foreign : op.owner? ≠ some c) (h : Hub) : Operated c h (op.act h) :=
  ⟨[op], fun _ hop => List.mem_singleton.mp hop ▸ foreign, rfl⟩

end Operated

/-- An eviction is something that others do. -/
theorem operated_evict (h : Hub) (c c' : ConnectionId) : Operated c h (h.evict c') :=
  ⟨[.unsubscribeAll c', .close c', .note h.cache { h.stats with dropped := h.stats.dropped + 1 }],
    by simp [HubOp.owner?], rfl⟩

/-- So is an offer. -/
theorem operated_offer (h : Hub) (c c' : ConnectionId) (e : Event) :
    Operated c h (h.offer c' e) := by
  by_cases hr : (h.connection c').Refuses
  · rw [(offer_of_refuses hr e).1]
    exact operated_evict h c c'
  · have hact : (HubOp.deliver c' e).act h = h.offer c' e := by
      rw [HubOp.act_deliver_of_not_refuses hr, (offer_of_not_refuses hr e).1]
    rw [← hact]
    exact .one (.deliver c' e) (Option.some_ne_none c).symm h

theorem operated_foldl_offer (e : Event) (cs : List ConnectionId) (h : Hub) (c : ConnectionId) :
    Operated c h (cs.foldl (fun h c' => h.offer c' e) h) := by
  induction cs generalizing h with
  | nil => exact .refl c h
  | cons c' cs ih => exact (operated_offer h c c' e).trans (ih _)

/-- So is what happens to the cache and to the counters. -/
theorem operated_note (h : Hub) (c : ConnectionId) (cache : EventCache) (stats : HubStats) :
    Operated c h { h with cache, stats } :=
  .one (.note cache stats) (Option.some_ne_none c).symm h

theorem operated_announce (h : Hub) (c : ConnectionId) (slot : SlotId) (e : Event) :
    Operated c h (h.announce slot e).2 := by
  rw [announce_snd]
  exact (operated_note h c _ _).trans (operated_foldl_offer e _ _ c)

theorem operated_settle (h : Hub) (c : ConnectionId) (e : Event) (n : Nat) :
    Operated c h ((h.settle e).countDelivered n) := by
  have hsettle : h.settle e =
      { h with cache := (h.settle e).cache, stats := (h.settle e).stats } := by
    unfold settle
    split <;> rfl
  rw [hsettle]
  exact operated_note h c _ _

end Hub

/-- A section of a call that does not make a connection join is made of operations of others. -/
theorem HubTask.operated (h : Hub) {c : ConnectionId} (task : HubTask)
    (foreign : ∀ job, ¬task.Waits c job) : h.Operated c (task.step h).2 := by
  have subscribed : ∀ {c' job}, c' ≠ c → h.Operated c (h.subscribe c' job).2 :=
    fun {c' job} hne => .one (.subscribe c' job) (fun heq => hne (Option.some.inj heq)) h
  cases task with
  | taking e => exact h.operated_note c _ _
  | announcing e slot => exact h.operated_announce c slot e
  | settling e delivered => exact h.operated_settle c e delivered
  | finding c' job =>
    have hne : c' ≠ c := fun heq => foreign job ⟨heq, rfl⟩
    show h.Operated c (h.findSlot c' job).2
    unfold Hub.findSlot
    split
    · exact .refl c h
    · exact subscribed hne
  | replaying c' job slot =>
    have hne : c' ≠ c := fun heq => foreign job ⟨heq, rfl⟩
    obtain ⟨n, hreplay⟩ := h.replay_snd c' job slot
    show h.Operated c (h.replay c' job slot).2
    rw [hreplay]
    refine Hub.Operated.trans ?_ (Hub.operated_note _ c _ _)
    split
    · exact (subscribed hne).trans (Hub.operated_offer _ c c' _)
    · exact subscribed hne
  | done => exact .refl c h

/-- The connection whose session alone makes a call. -/
def HubCall.owner? : HubCall → Option ConnectionId
  | visit (.join c _) | visit (.unsubscribe c _) | visit (.take c _) | visit (.abandon c) => some c
  | _ => none

/-- A call that the session of a connection does not make itself is made of operations of others. -/
theorem HubCall.operated (h : Hub) {c : ConnectionId} {call : HubCall}
    (foreign : call.owner? ≠ some c) : h.Operated c (call.act h) := by
  cases call with
  | publish e =>
    show h.Operated c (h.publish e).2
    rw [Hub.publish_snd]
    exact ((HubTask.operated h (.taking e) (fun _ => id)).trans
      (Hub.operated_announce _ c _ e)).trans (Hub.operated_settle _ c e _)
  | forget job => exact h.operated_note c _ _
  | visit v =>
    cases v with
    | openConnection room => exact .one (.openConnection room) nofun h
    | join c' job =>
      have hne : c' ≠ c := fun heq => foreign (congrArg some heq)
      have hjoin := h.join_snd c' job
      show h.Operated c (h.join c' job).2
      rw [hjoin]
      split
      · next slot _ =>
        exact HubTask.operated h (.replaying c' job slot) fun _ hw => hne hw.1
      · exact .one (.subscribe c' job) foreign h
    | unsubscribe c' job => exact .one (.unsubscribe c' job) foreign h
    | disconnect c' => exact .one (.unsubscribeAll c') nofun h
    | take c' most => exact .one (.take c' most) foreign h
    | close c' => exact .one (.close c') nofun h
    | abandon c' => exact .one (.abandon c') foreign h

end JobRunner
