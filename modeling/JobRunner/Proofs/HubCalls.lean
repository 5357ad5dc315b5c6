import JobRunner.Proofs.Plant
import JobRunner.Proofs.Seats

/-!
# Calls on the hub

- `HubCall`: a publication, the removal of a latest event, or what a session or its client does.
- `Hub.calls`: some calls, one after the other, each in one piece.
- `Hub.Sound`: the indexes of the subscriptions agree and no slot is used for two jobs, whatever is
  called.
- `Hub.received`: the events of a job that have been accepted into the buffer of a connection.
- `Hub.accepted_of_turn`, `Hub.follows_of_turn`: what a turn of a connection adds to its buffer and
  to the jobs it follows.
-/

namespace JobRunner

/-- A call on the hub. -/
inductive HubCall where
  | publish (e : Event)
  | forget (job : JobId)
  | visit (visit : Visit)

/-- A visit ends the subscription of a connection to a job. -/
def Visit.Leaves (c : ConnectionId) (job : JobId) : Visit → Prop
  | unsubscribe c' j => c' = c ∧ j = job
  | disconnect c' => c' = c
  | _ => False

instance (c : ConnectionId) (job : JobId) : (v : Visit) → Decidable (v.Leaves c job)
  | .unsubscribe c' j => inferInstanceAs (Decidable (c' = c ∧ j = job))
  | .disconnect c' => inferInstanceAs (Decidable (c' = c))
  | .openConnection _ | .join _ _ | .take _ _ | .close _ | .abandon _ => .isFalse id

/-- A call is a visit that ends the subscription of a connection to a job. -/
def HubCall.Leaves (c : ConnectionId) (job : JobId) : HubCall → Prop
  | visit v => v.Leaves c job
  | _ => False

instance (c : ConnectionId) (job : JobId) : (call : HubCall) → Decidable (call.Leaves c job)
  | .visit v => inferInstanceAs (Decidable (v.Leaves c job))
  | .publish _ | .forget _ => .isFalse id

/-- What a call leaves behind. -/
def HubCall.act (h : Hub) : HubCall → Hub
  | publish e => (h.publish e).2
  | forget job => (h.forget job).2
  | visit v => v.act h

/-- The event of a job that a call publishes. -/
def HubCall.published? (job : JobId) : HubCall → Option Event
  | publish e => if e.jobId = job then some e else none
  | _ => none

/-- The event that a call publishes, of whichever job. -/
def HubCall.event? : HubCall → Option Event
  | publish e => some e
  | _ => none

/-- The job that a call settles. -/
def HubCall.settlement? : HubCall → Option JobId
  | publish e => if e.status.isTerminal then some e.jobId else none
  | _ => none

/-- Visits leave the latest events as they are. -/
theorem Visit.cache_act (v : Visit) (h : Hub) : (v.act h).cache = h.cache := by
  cases v with
  | join c job => exact Hub.cache_join h c job
  | _ => rfl

namespace Hub

/-- The hub after some calls. -/
def calls (h : Hub) (calls : List HubCall) : Hub := calls.foldl HubCall.act h

variable {h h' : Hub} {c : ConnectionId} {job : JobId}

/-- Calls follow one another. -/
theorem calls_append (h : Hub) (cs cs' : List HubCall) :
    h.calls (cs ++ cs') = (h.calls cs).calls cs' := List.foldl_append

/-! ## Soundness -/

/-- The two indexes of the subscriptions agree, and every slot belongs to one job. -/
structure Sound (h : Hub) : Prop where
  subscriptions : h.subscriptions.Sound
  cache : ∃ owner, h.cache.Owned owner

theorem sound_empty (capacity : Nat) : (empty capacity).Sound :=
  ⟨Subscriptions.sound_empty, fun _ => .nil, .empty capacity _⟩

namespace Sound

/-- The event kept for a job is one of that job. -/
theorem jobId_of_latest? (hs : h.Sound) {e : Event} (hlatest : h.latest? job = some e) :
    e.jobId = job := by
  obtain ⟨owner, howned⟩ := hs.cache
  exact howned.jobId_of_latest? hlatest

theorem settle (hs : h.Sound) (e : Event) : (h.settle e).Sound := by
  refine ⟨sound_settle hs.subscriptions e, ?_⟩
  obtain ⟨owner, howned⟩ := hs.cache
  unfold Hub.settle
  split
  · exact ⟨owner, howned.settle e.jobId⟩
  · exact ⟨owner, howned⟩

/-- A publication keeps the hub sound. -/
theorem publish (hs : h.Sound) (e : Event) : (h.publish e).2.Sound := by
  obtain ⟨owner, howned⟩ := hs.cache
  obtain ⟨owner', howned', -, -, hlt, howner⟩ := howned.takeSlot e.jobId
  have htaken : (h.takeSlot e.jobId).2.subscriptions.Sound := hs.subscriptions
  have hannounced : ((h.takeSlot e.jobId).2.announce (h.takeSlot e.jobId).1 e).2.Sound := by
    refine ⟨sound_announce htaken _ e, owner', ?_⟩
    rw [cache_announce]
    exact howned'.store hlt howner
  have hsettled := hannounced.settle e
  exact ⟨hsettled.subscriptions, hsettled.cache⟩

/-- So does a visit. -/
theorem visit (hs : h.Sound) (v : Visit) : (v.act h).Sound := by
  refine ⟨?_, v.cache_act h ▸ hs.cache⟩
  cases v with
  | join c job => exact sound_join hs.subscriptions c job
  | unsubscribe c job => exact hs.subscriptions.unsubscribe c job
  | disconnect c => exact hs.subscriptions.unsubscribeAll c
  | openConnection | take | close | abandon => exact hs.subscriptions

theorem act (hs : h.Sound) (call : HubCall) : (call.act h).Sound := by
  cases call with
  | publish e => exact hs.publish e
  | forget job =>
    obtain ⟨owner, howned⟩ := hs.cache
    exact ⟨hs.subscriptions, owner, howned.dropSlot job⟩
  | visit v => exact hs.visit v

/-- A hub stays sound, whatever the calls are. -/
theorem calls (hs : h.Sound) (cs : List HubCall) : (h.calls cs).Sound := by
  induction cs generalizing h with
  | nil => exact hs
  | cons call cs ih => exact ih (hs.act call)

end Sound

/-! ## Events received -/

/-- The events of a job that stand new in the buffer of a connection. -/
def accepted (h h' : Hub) (c : ConnectionId) (job : JobId) : List Event :=
  ((h'.connection c).buffer.drop (h.connection c).buffer.length).filter (·.jobId = job)

/-- What some steps put out, one after the other. -/
def collect {σ α β : Type} (step : σ → α → σ) (out : σ → α → List β) : σ → List α → List β
  | _, [] => []
  | s, a :: as => out s a ++ collect step out (step s a) as

/-- What is collected is collected in order. -/
theorem collect_append {σ α β : Type} (step : σ → α → σ) (out : σ → α → List β) (s : σ)
    (as as' : List α) :
    collect step out s (as ++ as') =
      collect step out s as ++ collect step out (as.foldl step s) as' := by
  induction as generalizing s with
  | nil => rfl
  | cons a as ih => rw [List.cons_append, collect, collect, ih, List.append_assoc]; rfl

/-- The events of a job accepted into the buffer of a connection in the course of some steps. -/
def received {σ α : Type} (step : σ → α → σ) (hub : σ → Hub) (c : ConnectionId) (job : JobId) :
    σ → List α → List Event :=
  collect step fun s a => accepted (hub s) (hub (step s a)) c job

/-- Of what is delivered to the followers of its job, those of a job get the events of that job. -/
theorem filter_offered (h : Hub) (c : ConnectionId) (e : Event) (job : JobId) :
    (if h.subscriptions.Follows c e.jobId then some e else none).filter (·.jobId = job) =
      if h.subscriptions.Follows c job then (if e.jobId = job then some e else none) else none := by
  by_cases hjob : e.jobId = job
  · subst hjob
    split <;> simp
  · split <;> simp [hjob]

/-- Nothing is accepted where a buffer only loses events. -/
theorem accepted_of_length_le
    (le : (h'.connection c).buffer.length ≤ (h.connection c).buffer.length) :
    accepted h h' c job = [] := by
  rw [accepted, List.drop_eq_nil_of_le le, List.filter_nil]

/-- A connection that takes a turn accepts what is delivered, unless it refuses it. -/
theorem accepted_of_turn {joins : Option JobId} {delivers : Option Event}
    (heq : h'.seat c = (h.seat c).turn joins delivers) (job : JobId) :
    accepted h h' c job =
      if (h.connection c).Refuses then [] else (delivers.filter (·.jobId = job)).toList := by
  have hbuffer : (h'.connection c).buffer =
      (h.connection c).buffer ++ if (h.connection c).Refuses then [] else delivers.toList :=
    (congrArg (·.connection.buffer) heq).trans (Seat.turn_buffer _ _ _)
  rw [accepted, hbuffer, List.drop_left]
  split
  · rfl
  · cases delivers with
    | none => rfl
    | some e =>
      by_cases hjob : e.jobId = job <;> simp [hjob, Option.filter_some]

theorem follows_of_turn {joins : Option JobId} {delivers : Option Event}
    (heq : h'.seat c = (h.seat c).turn joins delivers) (job : JobId) :
    h'.subscriptions.Follows c job ↔
      ¬(delivers.isSome = true ∧ (h.connection c).Refuses) ∧
        (h.subscriptions.Follows c job ∨ joins = some job) := by
  have hfollows : h'.subscriptions.Follows c job ↔
      ((h.seat c).turn joins delivers).follows job := by
    rw [← heq]
    rfl
  exact hfollows.trans (Seat.turn_follows _ _ _)

/-- A connection that refuses what is delivered is closed. -/
theorem closed_of_turn {joins : Option JobId} {delivers : Option Event}
    (heq : h'.seat c = (h.seat c).turn joins delivers) (hdelivers : delivers.isSome = true)
    (hr : (h.connection c).Refuses) : (h'.connection c).closed = true :=
  (congrArg (·.connection.closed) heq).trans (Seat.turn_closed _ _ hdelivers hr)

/-! ## Other visits -/

/-- A connection that does not join goes on to follow a job unless it leaves. -/
theorem follows_visit (hs : h.Sound) {v : Visit} (hjoin : ∀ c job, v ≠ .join c job)
    (c : ConnectionId) (job : JobId) :
    (v.act h).subscriptions.Follows c job ↔ ¬v.Leaves c job ∧ h.subscriptions.Follows c job := by
  cases v with
  | join c' j => exact absurd rfl (hjoin c' j)
  | unsubscribe c' j =>
    refine Subscriptions.follows_unsubscribe.trans ?_
    simp [Visit.Leaves, and_comm, eq_comm]
  | disconnect c' =>
    refine (Subscriptions.follows_unsubscribeAll hs.subscriptions).trans ?_
    simp [Visit.Leaves, and_comm, eq_comm]
  | openConnection | take | close | abandon =>
    show h.subscriptions.Follows c job ↔ _
    simp [Visit.Leaves]

/-- A connection that does not join accepts nothing. -/
theorem accepted_visit {v : Visit} (hjoin : ∀ c job, v ≠ .join c job) (c : ConnectionId)
    (job : JobId) : accepted h (v.act h) c job = [] := by
  have hset : ∀ {c' : ConnectionId} {connection : Connection},
      connection.buffer.length ≤ (h.connection c').buffer.length →
      (v.act h).connection c = (h.setConnection c' connection).connection c →
      accepted h (v.act h) c job = [] := by
    intro c' connection hle heq
    refine accepted_of_length_le ?_
    rw [heq, connection_setConnection]
    split
    · next hc => exact hc ▸ hle
    · exact Nat.le_refl _
  cases v with
  | join c' j => exact absurd rfl (hjoin c' j)
  | unsubscribe | disconnect => exact accepted_of_length_le (Nat.le_refl _)
  | openConnection room => exact hset (Nat.zero_le _) rfl
  | take c' most =>
    exact hset (Nat.le_trans (Nat.le_of_eq List.length_drop) (Nat.sub_le _ _)) rfl
  | close c' =>
    have hclose : (h.connection c').close.buffer.length ≤ (h.connection c').buffer.length :=
      Nat.le_refl _
    exact hset hclose rfl
  | abandon c' => exact hset (Nat.zero_le _) rfl

end Hub

end JobRunner
