import JobRunner.Proofs.Slots
import Mathlib.Data.List.Induction

/-!
# Joining while events are published

- `Traffic.Told`: what a connection has received of a job, and whether its call to join waits.
- `Traffic.Race`: a connection looks for the slot of a job, and later on an event is stored.
- `Traffic.serves_run`: however sections follow each other, a connection receives events of a job in
  the order in which they are stored, and none twice. It receives an event that is stored after its
  look, or a later one, unless it has found another slot; and it finds no other one while there is
  room for all settlements.
- `Traffic.not_catches_of_dropped_slot`: else the slot that it found can be dropped meanwhile, and
  the event be stored in another one. The connection then misses the event.
-/

namespace JobRunner

namespace HubTask

variable {h : Hub} {task : HubTask} {c : ConnectionId} {job : JobId}

/-- A call goes on waiting only if it has found a slot, and that changes nothing. -/
theorem waits_step (hwaits : (task.step h).1.Waits c job) :
    task.Waits c job ∧ (task.step h).2 = h := by
  cases task with
  | finding c' j =>
    cases hslot : h.cache.slots[j]? with
    | none =>
      rw [step_finding_of_none hslot] at hwaits
      cases hwaits
    | some slot =>
      rw [step_finding_of_some hslot] at hwaits ⊢
      exact ⟨hwaits, rfl⟩
  | _ => cases hwaits

/-- A connection begins to follow a job only through a call that waits for that. -/
theorem waits_of_joins (hjoins : task.joins? h c = some job) : task.Waits c job := by
  cases task with
  | finding c' j =>
    obtain ⟨⟨hc, -⟩, hj⟩ := Option.ite_none_right_eq_some.mp hjoins
    exact ⟨hc, Option.some.inj hj⟩
  | replaying c' j slot =>
    obtain ⟨hc, hj⟩ := Option.ite_none_right_eq_some.mp hjoins
    exact ⟨hc, Option.some.inj hj⟩
  | _ => cases hjoins

/-- The event of a job that is delivered to a connection without a call that waits for that. -/
theorem filter_delivery? {owner : SlotId → JobId} (howned : h.cache.Owned owner)
    (hslot : ∀ slot job, task.slot? = some (slot, job) → owner slot = job)
    (hwaits : ¬task.Waits c job) :
    (task.delivery? h c).filter (·.jobId = job) =
      if h.subscriptions.Follows c job then task.announced? job else none := by
  have hnothing : task.delivery? h c = none → task.announced? job = none →
      (task.delivery? h c).filter (·.jobId = job) =
        if h.subscriptions.Follows c job then task.announced? job else none := by
    intro hdelivery hannounced
    rw [hdelivery, hannounced, ite_self]
    rfl
  cases task with
  | taking | settling | finding | done => exact hnothing rfl rfl
  | announcing e slot => exact Hub.filter_offered h c e job
  | replaying c' j slot =>
    show _ = if _ then none else none
    rw [ite_self]
    refine Option.filter_eq_none_iff.mpr fun e hdelivery => ?_
    obtain ⟨hc, hcell⟩ := Option.ite_none_right_eq_some.mp hdelivery
    -- the slot belongs to the job for which the connection waits
    have hj : e.jobId = j := ((howned.cells slot e hcell).2).symm.trans (hslot slot j rfl)
    simp only [decide_eq_true_eq]
    exact fun hjob => hwaits ⟨hc, hj.symm.trans hjob⟩

/-- What a call that waits delivers to the connection stands in a slot of the job. -/
theorem delivery?_of_waits {e : Event} (hwaits : task.Waits c job)
    (hdelivery : task.delivery? h c = some e) :
    ∃ slot, task = replaying c job slot ∧ h.cache.cells[slot]? = some e := by
  cases task with
  | replaying c' j slot =>
    obtain ⟨rfl, rfl⟩ := hwaits
    exact ⟨slot, rfl, (if_pos rfl).symm.trans hdelivery⟩
  | finding => cases hdelivery
  | _ => cases hwaits

end HubTask

namespace Traffic

variable {t t' : Traffic} {m : HubMove} {c : ConnectionId} {job : JobId} {e : Event}
  {joined : Prop} {got told : List Event}

/-- A call at a place waits to tell a connection about a job. -/
def WaitsAt (t : Traffic) (c : ConnectionId) (job : JobId) (i : Nat) : Prop :=
  ∃ task, t.tasks[i]? = some task ∧ task.Waits c job

/-- A task that waits for a replay waits at its place. -/
theorem waitsAt_of_task? {task : HubTask} (htask : t.task? m = some task)
    (hwaits : task.Waits c job) : ∃ i, t.WaitsAt c job i ∧ m = .advance i := by
  cases m with
  | call => cases htask
  | advance i => exact ⟨i, ⟨task, htask, hwaits⟩, rfl⟩

/-- Where no call that waits is advanced, a follower receives what is stored. -/
theorem Step.accepted_of_not_waits (h : Step t m t') (ho : t.Orderly)
    (hwaits : ∀ i, t.WaitsAt c job i → m ≠ .advance i) :
    Hub.accepted t.hub t'.hub c job =
      if t.hub.subscriptions.Follows c job ∧ ¬(t.hub.connection c).Refuses
      then (t.announced? job m).toList else [] := by
  have hfilter : (t.delivery? m c).filter (·.jobId = job) =
      if t.hub.subscriptions.Follows c job then t.announced? job m else none := by
    unfold delivery? announced?
    cases htask : t.task? m with
    | none => exact (ite_self _).symm
    | some task =>
      obtain ⟨owner, howned, hslots⟩ := ho.cache
      refine HubTask.filter_delivery? howned
        (fun slot job h => (hslots task (mem_of_task? htask) slot job h).2) fun hw => ?_
      obtain ⟨i, hi, hm⟩ := waitsAt_of_task? htask hw
      exact hwaits i hi hm
  rw [h.accepted ho, hfilter]
  by_cases hfollows : t.hub.subscriptions.Follows c job
  · by_cases hr : (t.hub.connection c).Refuses <;> simp [hfollows, hr]
  · simp [hfollows]

/-- A call that waits has waited before, or it has just begun. -/
theorem Step.waitsAt (h : Step t m t') {i : Nat} (hwaits : t'.WaitsAt c job i) :
    (t.WaitsAt c job i ∧ (m = .advance i → t'.hub = t.hub)) ∨
      (m.joins? = some (c, job) ∧ i = t.tasks.length) := by
  obtain ⟨task, hi, hwaits⟩ := hwaits
  cases h with
  | @start call started sections =>
    rcases Nat.lt_or_ge i t.tasks.length with hlt | hge
    · rw [List.getElem?_append_left hlt] at hi
      exact .inl ⟨⟨task, hi, hwaits⟩, nofun⟩
    · rw [List.getElem?_append_right hge] at hi
      obtain ⟨hplace, -⟩ := List.getElem?_eq_some_iff.mp hi
      rw [List.length_singleton] at hplace
      refine .inr ⟨?_, by omega⟩
      -- the call has just been made, so it is the one to join
      have hcall : task = started := List.mem_singleton.mp (List.mem_of_getElem? hi)
      rw [hcall] at hwaits
      unfold HubTask.ofCall? at sections
      split at sections <;> cases sections
      · exact hwaits.elim
      · obtain ⟨rfl, rfl⟩ := hwaits
        rfl
  | whole => exact .inl ⟨⟨task, hi, hwaits⟩, nofun⟩
  | idle => exact .inl ⟨⟨task, hi, hwaits⟩, fun _ => rfl⟩
  | @advance j old at_j =>
    by_cases hij : j = i
    · subst hij
      rw [List.getElem?_set_self (List.getElem?_eq_some_iff.mp at_j).1] at hi
      obtain ⟨hold, hsame⟩ := HubTask.waits_step (Option.some.inj hi ▸ hwaits)
      exact .inl ⟨⟨old, at_j, hold⟩, fun _ => hsame⟩
    · rw [List.getElem?_set_ne hij] at hi
      refine .inl ⟨⟨task, hi, hwaits⟩, fun heq => absurd ?_ hij⟩
      cases heq
      rfl

/-- How far a connection has come with a job: what it has received, and whether its call to join
waits. -/
structure Told (t : Traffic) (c : ConnectionId) (job : JobId) (joined : Prop)
    (got told : List Event) : Prop where
  /-- Before it has called to join, it has received nothing. -/
  untouched : ¬joined → got = [] ∧ ¬t.hub.subscriptions.Follows c job ∧ ∀ i, ¬t.WaitsAt c job i
  /-- Nor has it while its call waits. -/
  waiting : ∀ i, t.WaitsAt c job i → got = [] ∧ ¬t.hub.subscriptions.Follows c job
  /-- It has called once. -/
  unique : ∀ i j, t.WaitsAt c job i → t.WaitsAt c job j → i = j
  /-- Every event in a slot has been stored there. -/
  cells : ∀ (slot : SlotId) (e : Event), t.hub.cache.cells[slot]? = some e → e.jobId = job →
    e ∈ told
  /-- What it has received has been stored, and in that order. -/
  order : got.Sublist told

/-- Nobody has been told anything at first. -/
theorem told_new (capacity : Nat) (c : ConnectionId) (job : JobId) :
    (new capacity).Told c job False [] [] := by
  have hwaits : ∀ i, ¬(new capacity).WaitsAt c job i := by
    rintro i ⟨task, hi, -⟩
    cases hi
  refine ⟨fun _ => ⟨rfl, Subscriptions.not_follows_empty, hwaits⟩,
    fun i h => absurd h (hwaits i), fun i _ h => absurd h (hwaits i),
    fun slot e hcell => ?_, .slnil⟩
  simp [new, Hub.empty, EventCache.empty] at hcell

/-- Where no call that waits is advanced, a connection that does not follow the job receives
nothing, and does not begin to follow it. -/
theorem Step.quiet (h : Step t m t') (ho : t.Orderly)
    (hfollows : ¬t.hub.subscriptions.Follows c job)
    (hwaits : ∀ i, t.WaitsAt c job i → m ≠ .advance i) :
    Hub.accepted t.hub t'.hub c job = [] ∧ ¬t'.hub.subscriptions.Follows c job := by
  constructor
  · rw [h.accepted_of_not_waits ho hwaits, if_neg fun hboth => hfollows hboth.1]
  · rw [h.follows ho]
    rintro ⟨-, hold | hjoins⟩
    · exact hfollows hold
    · obtain ⟨task, htask, hjoins⟩ := Option.bind_eq_some_iff.mp hjoins
      obtain ⟨i, hi, hm⟩ := waitsAt_of_task? htask (HubTask.waits_of_joins hjoins)
      exact hwaits i hi hm

/-- What a call that waits brings the connection has been stored in a slot. -/
theorem Told.accepted_of_waits (h : Step t m t') (ho : t.Orderly)
    (htold : t.Told c job joined got told) {task : HubTask} (htask : t.task? m = some task)
    (hwaits : task.Waits c job) : (Hub.accepted t.hub t'.hub c job).Sublist told := by
  rw [h.accepted ho, delivery?, htask, Option.bind_some]
  split
  · exact List.nil_sublist told
  · cases hdelivery : task.delivery? t.hub c with
    | none => exact List.nil_sublist told
    | some e =>
      obtain ⟨slot, -, hcell⟩ := HubTask.delivery?_of_waits hwaits hdelivery
      rw [Option.filter_some]
      split
      · next hjob =>
        exact List.singleton_sublist.mpr (htold.cells slot e hcell (of_decide_eq_true hjob))
      · exact List.nil_sublist told

/-- What a connection takes in one step comes after what it has got. -/
theorem Told.order_step (h : Step t m t') (ho : t.Orderly)
    (htold : t.Told c job joined got told) :
    (got ++ Hub.accepted t.hub t'.hub c job).Sublist (told ++ (t.announced? job m).toList) := by
  by_cases hwaits : ∃ task, t.task? m = some task ∧ task.Waits c job
  · -- the first event that the connection receives is one of an earlier move
    obtain ⟨task, htask, hwaits⟩ := hwaits
    obtain ⟨i, hi, -⟩ := waitsAt_of_task? htask hwaits
    rw [(htold.waiting i hi).1, List.nil_append]
    exact (htold.accepted_of_waits h ho htask hwaits).trans (List.sublist_append_left told _)
  · have hnone : ∀ i, t.WaitsAt c job i → m ≠ .advance i := by
      rintro i ⟨task, hi, hw⟩ rfl
      exact hwaits ⟨task, hi, hw⟩
    rw [h.accepted_of_not_waits ho hnone]
    refine htold.order.append ?_
    split
    · exact .refl _
    · exact List.nil_sublist _

/-- What is in a slot has been announced. -/
theorem Told.cells_step (h : Step t m t') (htold : t.Told c job joined got told) {slot : SlotId}
    (hcell : t'.hub.cache.cells[slot]? = some e) (hjob : e.jobId = job) :
    e ∈ told ++ (t.announced? job m).toList := by
  rcases h.cells slot with hsame | ⟨e', htask, hstored⟩
  · exact List.mem_append_left _ (htold.cells slot e (hsame.symm.trans hcell) hjob)
  · obtain rfl : e' = e := Option.some.inj (hstored.symm.trans hcell)
    refine List.mem_append_right _ ?_
    rw [announced?, htask, Option.bind_some, HubTask.announced?, if_pos hjob]
    exact List.mem_singleton_self e'

/-- A move takes a connection on, if its call to join is the first one. -/
theorem Told.step (h : Step t m t') (ho : t.Orderly) (htold : t.Told c job joined got told)
    (once : m.joins? = some (c, job) → ¬joined) :
    t'.Told c job (joined ∨ m.joins? = some (c, job))
      (got ++ Hub.accepted t.hub t'.hub c job) (told ++ (t.announced? job m).toList) := by
  have hquiet : got = [] ∧ ¬t.hub.subscriptions.Follows c job →
      (∀ i, t.WaitsAt c job i → m ≠ .advance i) →
      got ++ Hub.accepted t.hub t'.hub c job = [] ∧ ¬t'.hub.subscriptions.Follows c job := by
    rintro ⟨rfl, hfollows⟩ hother
    exact h.quiet ho hfollows hother
  -- a call that begins to wait is the first one
  have hfirst : m.joins? = some (c, job) → (got = [] ∧ ¬t.hub.subscriptions.Follows c job) ∧
      ∀ i, ¬t.WaitsAt c job i := by
    intro hjoins
    obtain ⟨hgot, hfollows, hnone⟩ := htold.untouched (once hjoins)
    exact ⟨⟨hgot, hfollows⟩, hnone⟩
  refine ⟨fun hnot => ?_, fun i hi => ?_, fun i j hi hj => ?_,
    fun slot e hcell hjob => htold.cells_step h hcell hjob, htold.order_step h ho⟩
  · obtain ⟨hjoined, hcall⟩ := not_or.mp hnot
    obtain ⟨hgot, hfollows, hnone⟩ := htold.untouched hjoined
    obtain ⟨hgot', hfollows'⟩ := hquiet ⟨hgot, hfollows⟩ fun i hi => absurd hi (hnone i)
    refine ⟨hgot', hfollows', fun i hi => ?_⟩
    rcases h.waitsAt hi with ⟨hold, -⟩ | ⟨hnew, -⟩
    · exact hnone i hold
    · exact hcall hnew
  · rcases h.waitsAt hi with ⟨hold, hsame⟩ | ⟨hnew, -⟩
    · by_cases hm : m = .advance i
      · -- the call has found a slot
        obtain ⟨hgot, hfollows⟩ := htold.waiting i hold
        rw [hsame hm, hgot]
        exact ⟨Hub.accepted_of_length_le (Nat.le_refl _), hfollows⟩
      · refine hquiet (htold.waiting i hold) fun j hj hmj => hm ?_
        rw [hmj, htold.unique j i hj hold]
    · obtain ⟨hnothing, hnone⟩ := hfirst hnew
      exact hquiet hnothing fun j hj => absurd hj (hnone j)
  · rcases h.waitsAt hi with ⟨hold₁, -⟩ | ⟨hnew₁, hi⟩
    · rcases h.waitsAt hj with ⟨hold₂, -⟩ | ⟨hnew₂, -⟩
      · exact htold.unique i j hold₁ hold₂
      · exact absurd hold₁ ((hfirst hnew₂).2 i)
    · rcases h.waitsAt hj with ⟨hold₂, -⟩ | ⟨-, hj⟩
      · exact absurd hold₂ ((hfirst hnew₁).2 j)
      · exact hi.trans hj.symm

/-! ## Runs -/

/-- The events of a job that are stored in the course of some moves. -/
def announced (job : JobId) (t : Traffic) (ms : List HubMove) : List Event :=
  Hub.collect step (fun t m => (t.announced? job m).toList) t ms

/-- The events of a job that a connection receives in the course of some moves. -/
def received (c : ConnectionId) (job : JobId) (t : Traffic) (ms : List HubMove) : List Event :=
  Hub.received step hub c job t ms

/-- Moves follow one another. -/
theorem run_append (t : Traffic) (ms ms' : List HubMove) :
    t.run (ms ++ ms') = (t.run ms).run ms' := List.foldl_append

theorem announced_append (job : JobId) (t : Traffic) (ms ms' : List HubMove) :
    announced job t (ms ++ ms') = announced job t ms ++ announced job (t.run ms) ms' :=
  Hub.collect_append _ _ t ms ms'

theorem received_append (c : ConnectionId) (job : JobId) (t : Traffic) (ms ms' : List HubMove) :
    received c job t (ms ++ ms') = received c job t ms ++ received c job (t.run ms) ms' :=
  Hub.collect_append _ _ t ms ms'

theorem announced_singleton (job : JobId) (t : Traffic) (m : HubMove) :
    announced job t [m] = (t.announced? job m).toList := List.append_nil _

theorem received_singleton (c : ConnectionId) (job : JobId) (t : Traffic) (m : HubMove) :
    received c job t [m] = Hub.accepted t.hub (t.step m).hub c job := List.append_nil _

/-- Traffic is orderly after any moves. -/
theorem orderly_run (ho : t.Orderly) (ms : List HubMove) : (t.run ms).Orderly := by
  induction ms generalizing t with
  | nil => exact ho
  | cons m ms ih => exact ih ((t.step_cases m).orderly ho)

/-- Nobody who has joined a job joins it again. -/
theorem not_joins_of_nodup {ms ms' : List HubMove}
    (once : ((ms ++ ms').filterMap HubMove.joins?).Nodup)
    (hjoined : (c, job) ∈ ms.filterMap HubMove.joins?) :
    ∀ m ∈ ms', m.joins? ≠ some (c, job) := by
  intro m hm hjoins
  rw [List.filterMap_append, List.nodup_append] at once
  exact once.2.2 _ hjoined _ (List.mem_filterMap.mpr ⟨m, hm, hjoins⟩) rfl

/-- After any moves a connection has got some of what was announced, in that order. -/
theorem told_run (capacity : Nat) {ms : List HubMove} (once : (ms.filterMap HubMove.joins?).Nodup)
    (c : ConnectionId) (job : JobId) :
    ((new capacity).run ms).Told c job ((c, job) ∈ ms.filterMap HubMove.joins?)
      (received c job (new capacity) ms) (announced job (new capacity) ms) := by
  induction ms using List.reverseRecOn with
  | nil =>
    have hjoined : ((c, job) ∈ ([] : List HubMove).filterMap HubMove.joins?) = False :=
      eq_false List.not_mem_nil
    rw [hjoined]
    exact told_new capacity c job
  | append_singleton ms m ih =>
    have hjoined : ((c, job) ∈ (ms ++ [m]).filterMap HubMove.joins?) =
        ((c, job) ∈ ms.filterMap HubMove.joins? ∨ m.joins? = some (c, job)) := by
      simp only [List.mem_filterMap, List.mem_append, List.mem_singleton, or_and_right, exists_or,
        exists_eq_left]
    have hnew : m.joins? = some (c, job) → (c, job) ∉ ms.filterMap HubMove.joins? :=
      fun hm hold => not_joins_of_nodup once hold m (List.mem_singleton_self m) hm
    have honce : (ms.filterMap HubMove.joins?).Nodup :=
      once.sublist ((List.sublist_append_left ms [m]).filterMap _)
    have ho := orderly_run (orderly_new capacity) ms
    have hstep := (ih honce).step (((new capacity).run ms).step_cases m) ho hnew
    rw [← hjoined] at hstep
    rw [run_append, received_append, announced_append, received_singleton, announced_singleton]
    exact hstep

/-- Nothing ends the subscription of a connection to a job. -/
def Lasts (c : ConnectionId) (job : JobId) : Traffic → List HubMove → Prop
  | _, [] => True
  | t, m :: ms => ¬t.Ends m c job ∧ Lasts c job (t.step m) ms

instance decidableLasts (c : ConnectionId) (job : JobId) :
    (t : Traffic) → (ms : List HubMove) → Decidable (Lasts c job t ms)
  | _, [] => .isTrue trivial
  | t, m :: ms =>
    have := decidableLasts c job (t.step m) ms
    inferInstanceAs (Decidable (_ ∧ _))

/-- A connection follows a job, or its call to join is about to replay a slot. -/
def Awaits (t : Traffic) (c : ConnectionId) (job : JobId) (i : Nat) (slot : SlotId) : Prop :=
  t.hub.subscriptions.Follows c job ∨ t.tasks[i]? = some (.replaying c job slot)

/-- A connection goes on following a job, or being about to, until its subscription ends. -/
theorem Awaits.step {i : Nat} {slot : SlotId} (h : Step t m t') (ho : t.Orderly)
    (hends : ¬t.Ends m c job) (hawaits : t.Awaits c job i slot) : t'.Awaits c job i slot := by
  rcases hawaits with hfollows | hi
  · exact .inl ((h.follows ho c job).mpr ⟨hends, .inl hfollows⟩)
  · by_cases hm : m = .advance i
    · subst hm
      refine .inl ((h.follows ho c job).mpr ⟨hends, .inr ?_⟩)
      rw [task?, hi]
      exact if_pos rfl
    · exact .inr (h.task hi hm)

/-- A connection has received one of some events, or it is about to. -/
def Caught (t : Traffic) (c : ConnectionId) (job : JobId) (i : Nat) (slot : SlotId)
    (due got : List Event) : Prop :=
  (t.hub.subscriptions.Follows c job ∧ got ≠ [] ∧ got.Sublist due) ∨
    (t.tasks[i]? = some (.replaying c job slot) ∧ got = [] ∧
      ∃ e ∈ due, t.hub.cache.cells[slot]? = some e)

/-- An event that is stored reaches the followers of its job, and the calls that are about to replay
its slot find it there. -/
theorem Awaits.caught {i : Nat} {slot : SlotId} (h : Step t m t') (ho : t.Orderly)
    (htold : t.Told c job joined got told) (hends : ¬t.Ends m c job)
    (htask : t.task? m = some (.announcing e slot)) (own : e.jobId = job)
    (hawaits : t.Awaits c job i slot) :
    t'.Caught c job i slot [e] (Hub.accepted t.hub t'.hub c job) := by
  -- the call that stores the event is none that waits
  have hwaits : ∀ i, t.WaitsAt c job i → m ≠ .advance i := by
    rintro i ⟨task, hi, hw⟩ rfl
    cases hi.symm.trans htask
    exact hw
  rcases hawaits with hfollows | hi
  · have hdelivery : t.delivery? m c = some e := by
      rw [delivery?, htask]
      exact if_pos (own ▸ hfollows)
    have haccepts : ¬(t.hub.connection c).Refuses :=
      fun hr => hends (.inr ⟨by rw [hdelivery]; rfl, hr⟩)
    have hannounced : t.announced? job m = some e := by
      rw [announced?, htask]
      exact if_pos own
    rw [h.accepted_of_not_waits ho hwaits, if_pos ⟨hfollows, haccepts⟩, hannounced]
    exact .inl ⟨(h.follows ho c job).mpr ⟨hends, .inl hfollows⟩, List.cons_ne_nil _ _, .refl _⟩
  · have hm : m ≠ .advance i := by
      rintro rfl
      cases hi.symm.trans htask
    rw [(h.quiet ho (htold.waiting i ⟨_, hi, rfl, rfl⟩).2 hwaits).1]
    exact .inr ⟨h.task hi hm, rfl, e, List.mem_singleton_self e, h.stored htask⟩

/-- A connection misses nothing in a step. -/
theorem Caught.step {i : Nat} {slot : SlotId} {due caught : List Event} (h : Step t m t')
    (ho : t.Orderly) (htold : t.Told c job joined got told) (hends : ¬t.Ends m c job)
    (hcaught : t.Caught c job i slot due caught) :
    t'.Caught c job i slot (due ++ (t.announced? job m).toList)
      (caught ++ Hub.accepted t.hub t'.hub c job) := by
  rcases hcaught with ⟨hfollows, hsome, horder⟩ | ⟨hi, rfl, e, hdue, hcell⟩
  · -- a follower has no call that waits
    refine .inl ⟨(h.follows ho c job).mpr ⟨hends, .inl hfollows⟩, by simp [hsome], ?_⟩
    rw [h.accepted_of_not_waits ho fun j hj => absurd hfollows (htold.waiting j hj).2]
    refine horder.append ?_
    split
    · exact .refl _
    · exact List.nil_sublist _
  · have hwaits : t.WaitsAt c job i := ⟨_, hi, rfl, rfl⟩
    obtain ⟨owner, howned, hslots⟩ := ho.cache
    have howner : owner slot = job := (hslots _ (List.mem_of_getElem? hi) slot job rfl).2
    by_cases hm : m = .advance i
    · -- the slot is replayed
      subst hm
      have hdelivery : t.delivery? (.advance i) c = some e := by
        rw [delivery?, task?, hi]
        exact (if_pos rfl).trans hcell
      have haccepts : ¬(t.hub.connection c).Refuses :=
        fun hr => hends (.inr ⟨by rw [hdelivery]; rfl, hr⟩)
      have hjob : e.jobId = job := (howned.cells slot e hcell).2.symm.trans howner
      have haccepted : Hub.accepted t.hub t'.hub c job = [e] := by
        rw [h.accepted ho, if_neg haccepts, hdelivery, Option.filter_some,
          if_pos (decide_eq_true hjob)]
        rfl
      rw [haccepted, List.nil_append]
      refine .inl ⟨(h.follows ho c job).mpr ⟨hends, .inr ?_⟩, List.cons_ne_nil _ _, ?_⟩
      · rw [task?, hi]
        exact if_pos rfl
      · exact List.singleton_sublist.mpr (List.mem_append_left _ hdue)
    · have hquiet := h.quiet ho (htold.waiting i hwaits).2 fun j hj hmj =>
        hm (by rw [hmj, htold.unique j i hj hwaits])
      rw [hquiet.1]
      refine .inr ⟨h.task hi hm, rfl, ?_⟩
      rcases h.cells slot with hsame | ⟨e', htask, hstored⟩
      · exact ⟨e, List.mem_append_left _ hdue, hsame.trans hcell⟩
      · -- a later event has come into the slot
        have hjob : e'.jobId = job :=
          (hslots _ (mem_of_task? htask) slot e'.jobId rfl).2.symm.trans howner
        refine ⟨e', List.mem_append_right _ ?_, hstored⟩
        rw [announced?, htask, Option.bind_some, HubTask.announced?, if_pos hjob]
        exact List.mem_singleton_self e'

theorem lasts_append {ms ms' : List HubMove} :
    Lasts c job t (ms ++ ms') ↔ Lasts c job t ms ∧ Lasts c job (t.run ms) ms' := by
  induction ms generalizing t with
  | nil => exact (iff_of_eq (true_and _)).symm
  | cons m ms ih => exact (and_congr_right fun _ => ih).trans and_assoc.symm

/-- It does so in a whole run. -/
theorem Awaits.run {i : Nat} {slot : SlotId} {ms : List HubMove} (ho : t.Orderly)
    (hlasts : Lasts c job t ms) (hawaits : t.Awaits c job i slot) :
    (t.run ms).Awaits c job i slot := by
  induction ms generalizing t with
  | nil => exact hawaits
  | cons m ms ih =>
    have h := t.step_cases m
    exact ih (h.orderly ho) hlasts.2 (hawaits.step h ho hlasts.1)

/-- Nor does it in a whole run. -/
theorem Caught.run {i : Nat} {slot : SlotId} {ms : List HubMove} {due caught : List Event}
    (ho : t.Orderly) (htold : t.Told c job True got told) (hlasts : Lasts c job t ms)
    (once : ∀ m ∈ ms, m.joins? ≠ some (c, job)) (hcaught : t.Caught c job i slot due caught) :
    (t.run ms).Caught c job i slot (due ++ announced job t ms) (caught ++ received c job t ms) := by
  induction ms generalizing t due caught got told with
  | nil =>
    show t.Caught c job i slot (due ++ []) (caught ++ [])
    rw [List.append_nil, List.append_nil]
    exact hcaught
  | cons m ms ih =>
    have h := t.step_cases m
    obtain ⟨hm, hms⟩ := List.forall_mem_cons.mp once
    have htold' := htold.step h ho fun hjoins => absurd hjoins hm
    rw [true_or] at htold'
    have hrun := ih (h.orderly ho) htold' hlasts.2 hms (hcaught.step h ho htold hlasts.1)
    rw [List.append_assoc, List.append_assoc] at hrun
    exact hrun

/-- After the look, the connection follows the job or has found the slot. -/
theorem awaits_of_looks {i : Nat} {slot : SlotId} (ho : t.Orderly)
    (looks : t.tasks[i]? = some (.finding c job)) (hends : ¬t.Ends (.advance i) c job)
    (same : t.hub.cache.slots[job]? = none ∨ t.hub.cache.slots[job]? = some slot) :
    (t.step (.advance i)).Awaits c job i slot := by
  have h := t.step_cases (.advance i)
  rcases same with hnone | hsome
  · refine .inl ((h.follows ho c job).mpr ⟨hends, .inr ?_⟩)
    rw [task?, looks]
    exact if_pos ⟨rfl, hnone⟩
  · refine .inr ?_
    rw [step_advance looks, HubTask.step_finding_of_some hsome]
    exact List.getElem?_set_self (List.getElem?_eq_some_iff.mp looks).1

/-- A connection that awaits the slot in which an event is stored receives that event or a later
one. -/
theorem Awaits.received {i : Nat} {slot : SlotId} {ms : List HubMove} (ho : t.Orderly)
    (htold : t.Told c job True got told) (hawaits : t.Awaits c job i slot)
    (stores : t.task? m = some (.announcing e slot)) (own : e.jobId = job)
    (hlasts : Lasts c job t (m :: ms)) (once : ∀ m' ∈ m :: ms, m'.joins? ≠ some (c, job))
    (joined : (t.run (m :: ms)).tasks[i]? = some .done) :
    received c job t (m :: ms) ≠ [] ∧
      (received c job t (m :: ms)).Sublist (e :: announced job (t.step m) ms) := by
  have h := t.step_cases m
  obtain ⟨hm, hms⟩ := List.forall_mem_cons.mp once
  have htold' := htold.step h ho fun hjoins => absurd hjoins hm
  rw [true_or] at htold'
  have hcaught := hawaits.caught h ho htold hlasts.1 stores own
  rcases hcaught.run (h.orderly ho) htold' hlasts.2 hms with ⟨-, hsome, horder⟩ | ⟨hi, -⟩
  · exact ⟨hsome, horder⟩
  · cases hi.symm.trans joined

/-! ## Races -/

/-- In the course of some moves a connection looks for the slot of a job, and later on an event of
the job is stored. Both calls come to their end, and nothing ends the subscription from the look
on. -/
structure Race (capacity : Nat) (ms : List HubMove) (c : ConnectionId) (job : JobId) where
  first : List HubMove
  i : Nat
  middle : List HubMove
  k : Nat
  last : List HubMove
  e : Event
  slot : SlotId
  moves : ms = first ++ .advance i :: (middle ++ .advance k :: last)
  looks : ((new capacity).run first).tasks[i]? = some (.finding c job)
  stores : ((new capacity).run (first ++ .advance i :: middle)).tasks[k]? =
    some (.announcing e slot)
  own : e.jobId = job
  joined : ((new capacity).run ms).tasks[i]? = some .done
  published : ((new capacity).run ms).tasks[k]? = some .done
  lasts : Lasts c job ((new capacity).run first) (.advance i :: (middle ++ .advance k :: last))

namespace Race

variable {capacity : Nat} {ms : List HubMove} (r : Race capacity ms c job)

/-- The slot that the connection finds. -/
def found : Option SlotId := ((new capacity).run r.first).hub.cache.slots[job]?

/-- What comes before the section that stores the event. -/
def before : List HubMove := r.first ++ .advance r.i :: r.middle

/-- Where that section is made. -/
def ready : Traffic := (new capacity).run r.before

/-- The event and those of the job that are stored after it. -/
def due : List Event := r.e :: announced job (r.ready.step (.advance r.k)) r.last

/-- A race is what came before the subscription, the subscription, and what came after it. -/
theorem moves_eq : ms = r.before ++ .advance r.k :: r.last :=
  r.moves.trans (by rw [before, List.append_assoc, List.cons_append])

/-- The call to join is the only one, and it has begun before it looks. -/
theorem joins (once : (ms.filterMap HubMove.joins?).Nodup) :
    (c, job) ∈ r.before.filterMap HubMove.joins? := by
  rw [r.moves] at once
  have honce : (r.first.filterMap HubMove.joins?).Nodup :=
    once.sublist ((List.sublist_append_left r.first _).filterMap _)
  have hfirst : (c, job) ∈ r.first.filterMap HubMove.joins? := by
    by_contra hnot
    exact ((told_run capacity honce c job).untouched hnot).2.2 r.i ⟨_, r.looks, rfl, rfl⟩
  rw [before, List.filterMap_append]
  exact List.mem_append_left _ hfirst

theorem told_ready (once : (ms.filterMap HubMove.joins?).Nodup) :
    r.ready.Told c job True (received c job (new capacity) r.before)
      (announced job (new capacity) r.before) := by
  have honce : (r.before.filterMap HubMove.joins?).Nodup :=
    (r.moves_eq ▸ once).sublist ((List.sublist_append_left _ _).filterMap _)
  have htold := told_run capacity honce c job
  rw [eq_true (r.joins once)] at htold
  exact htold

/-- The two parts of the moves from the look on. -/
theorem lasts_ready : Lasts c job (((new capacity).run r.first).step (.advance r.i)) r.middle ∧
    Lasts c job r.ready (.advance r.k :: r.last) := by
  have hrun : (((new capacity).run r.first).step (.advance r.i)).run r.middle = r.ready :=
    (run_append _ r.first (.advance r.i :: r.middle)).symm
  rw [← hrun]
  exact lasts_append.mp r.lasts.2

/-- If the connection finds no slot, or the one in which the event is stored later on, it awaits
that one up to the section that stores the event. -/
theorem awaits (same : r.found = none ∨ r.found = some r.slot) :
    r.ready.Awaits c job r.i r.slot := by
  have ho := orderly_run (orderly_new capacity) r.first
  have h := ((new capacity).run r.first).step_cases (.advance r.i)
  have hready := (awaits_of_looks ho r.looks r.lasts.1 same).run (h.orderly ho) r.lasts_ready.1
  rw [ready, before, run_append]
  exact hready

/-- The slot that the connection finds is still there when the event is stored, if there has been
room for all settlements. -/
theorem same_of_room (kept : ∀ j, .call (.forget j) ∉ ms)
    (room : (settlements ms).length ≤ capacity) : r.found = none ∨ r.found = some r.slot := by
  have hms : ms = r.first ++ (.advance r.i :: r.middle) ++ .advance r.k :: r.last := r.moves_eq
  have hfirst : ∀ j, .call (.forget j) ∉ r.first := by
    intro j hmem
    exact kept j (r.moves ▸ List.mem_append_left _ hmem)
  have hsecond : ∀ j, .call (.forget j) ∉ HubMove.advance r.i :: r.middle := by
    intro j hmem
    exact kept j (r.moves_eq ▸ List.mem_append_left _ (List.mem_append_right _ hmem))
  have hlength := congrArg (fun ms => (settlements ms).length) hms
  simp only [settlements_append, List.length_append] at hlength
  obtain ⟨hlooks, -⟩ := (roomy_new capacity).run (by omega) hfirst
  obtain ⟨hready, hslots⟩ := hlooks.run (by omega) hsecond
  rw [← run_append] at hready hslots
  have hstores : r.ready.hub.cache.slots[r.e.jobId]? = some r.slot :=
    hready.slots _ (List.mem_of_getElem? r.stores) r.slot r.e.jobId rfl
  rw [r.own] at hstores
  cases hfound : r.found with
  | none => exact .inl rfl
  | some slot => exact .inr ((hslots job slot hfound).symm.trans hstores)

end Race

/-- What a connection receives of a job in the course of some moves. -/
structure Serves (capacity : Nat) (ms : List HubMove) (c : ConnectionId) (job : JobId) : Prop where
  /-- It receives events that are stored, in the same order, and none twice. -/
  order : (received c job (new capacity) ms).Sublist (announced job (new capacity) ms)
  /-- It receives an event, or a later one, if it has found no slot before or the same one. -/
  catches : ∀ r : Race capacity ms c job, r.found = none ∨ r.found = some r.slot →
    ∃ caught ≠ [], caught <:+ received c job (new capacity) ms ∧ caught.Sublist r.due
  /-- So it does whenever no job is forgotten, and no more settle than are remembered. -/
  catches_of_room : (∀ j, .call (.forget j) ∉ ms) → (settlements ms).length ≤ capacity →
    ∀ r : Race capacity ms c job,
      ∃ caught ≠ [], caught <:+ received c job (new capacity) ms ∧ caught.Sublist r.due

/-- A connection that finds no slot, or the one in which an event is stored later on, receives that
event or one that is stored after it. -/
theorem Race.catches {capacity : Nat} {ms : List HubMove} (r : Race capacity ms c job)
    (once : (ms.filterMap HubMove.joins?).Nodup)
    (same : r.found = none ∨ r.found = some r.slot) :
    ∃ caught ≠ [], caught <:+ received c job (new capacity) ms ∧ caught.Sublist r.due := by
  have hreceived : received c job (new capacity) ms = received c job (new capacity) r.before ++
      received c job r.ready (.advance r.k :: r.last) :=
    (congrArg (received c job (new capacity)) r.moves_eq).trans (received_append _ _ _ _ _)
  have hjoined : (r.ready.run (.advance r.k :: r.last)).tasks[r.i]? = some .done := by
    rw [ready, ← run_append, ← r.moves_eq]
    exact r.joined
  have hstores : r.ready.task? (.advance r.k) = some (.announcing r.e r.slot) := r.stores
  have honce : ∀ m ∈ .advance r.k :: r.last, m.joins? ≠ some (c, job) :=
    not_joins_of_nodup (r.moves_eq ▸ once) (r.joins once)
  obtain ⟨hsome, horder⟩ := (r.awaits same).received (orderly_run (orderly_new capacity) _)
    (r.told_ready once) hstores r.own r.lasts_ready.2 honce hjoined
  refine ⟨_, hsome, ?_, horder⟩
  rw [hreceived]
  exact List.suffix_append _ _

/-- However the sections of calls follow each other, a connection receives events of a job in the
order in which they are stored, and none twice. As long as the slot that it finds is not dropped, it
receives every event that is stored after its look, or a later one. -/
theorem serves_run (capacity : Nat) (ms : List HubMove) (c : ConnectionId) (job : JobId)
    (once : (ms.filterMap HubMove.joins?).Nodup) : Serves capacity ms c job where
  order := (told_run capacity once c job).order
  catches r same := r.catches once same
  catches_of_room kept room r := r.catches once (r.same_of_room kept room)

/-- A connection looks for the slot of a job that is going on, the job is done, and only then does
the connection replay the slot. -/
def overlappingMoves : List HubMove :=
  [.call (.visit (.openConnection 4)), .call (.publish (.ofStatus .nil .processing none none)),
    .advance 0, .advance 0, .advance 0, .call (.visit (.join 0 .nil)), .advance 1,
    .call (.publish (.ofStatus .nil .completed none none)), .advance 2, .advance 2, .advance 2,
    .advance 1]

/-- The slot is still the one that was found. -/
def overlappingRace : Race 1 overlappingMoves 0 .nil where
  first := overlappingMoves.take 6
  i := 1
  middle := (overlappingMoves.drop 7).take 2
  k := 2
  last := overlappingMoves.drop 10
  e := .ofStatus .nil .completed none none
  slot := 0
  moves := rfl
  looks := rfl
  stores := rfl
  own := rfl
  joined := rfl
  published := rfl
  lasts := by decide

/-- The connection receives the last event, by the replay. -/
theorem serves_of_overlappingMoves :
    (received 0 .nil (new 1) overlappingMoves).Sublist
        [.ofStatus .nil .processing none none, .ofStatus .nil .completed none none] ∧
      ∃ caught ≠ [], caught <:+ received 0 .nil (new 1) overlappingMoves ∧
        caught.Sublist [.ofStatus .nil .completed none none] := by
  have serves := serves_run 1 overlappingMoves 0 .nil (by decide)
  exact ⟨serves.order, serves.catches overlappingRace (.inr rfl)⟩

/-! ## A dropped slot -/

end Traffic

/-- The job that a call in sections publishes an event of. -/
def HubTask.publishes? : HubTask → Option JobId
  | taking e | announcing e _ | settling e _ => some e.jobId
  | _ => none

/-- The job of which an event begins to be published. -/
def HubMove.publishes? : HubMove → Option JobId
  | call (.publish e) => some e.jobId
  | _ => none

namespace Traffic

/-- No two publications of one job overlap. -/
def Separate : Traffic → List HubMove → Prop
  | _, [] => True
  | t, m :: ms =>
    (∀ task ∈ t.tasks, task.publishes?.isSome → task.publishes? ≠ m.publishes?) ∧
      Separate (t.step m) ms

instance decidableSeparate : (t : Traffic) → (ms : List HubMove) → Decidable (Separate t ms)
  | _, [] => .isTrue trivial
  | t, m :: ms =>
    have := decidableSeparate (t.step m) ms
    inferInstanceAs (Decidable (_ ∧ _))

/-- A connection looks for the slot of a job that has failed. Another job settles before the
connection replays the slot, and the first one is tried again. -/
def missingMoves : List HubMove :=
  [.call (.visit (.openConnection 4)), .call (.publish (.ofStatus .nil .failed none none)),
    .advance 0, .advance 0, .advance 0, .call (.visit (.join 0 .nil)), .advance 1,
    .call (.publish (.ofStatus (.ofNat 1) .completed none none)), .advance 2, .advance 2,
    .advance 2, .call (.publish (.ofStatus .nil .retrying none none)), .advance 3, .advance 3,
    .advance 3, .advance 1]

/-- The slot that was found has been dropped, and the event is stored in another one. -/
def missingRace : Race 1 missingMoves 0 .nil where
  first := missingMoves.take 6
  i := 1
  middle := (missingMoves.drop 7).take 6
  k := 3
  last := missingMoves.drop 14
  e := .ofStatus .nil .retrying none none
  slot := 2
  moves := rfl
  looks := rfl
  stores := rfl
  own := rfl
  joined := rfl
  published := rfl
  lasts := by decide

/-- So a connection can miss an event that is stored after its look, and all later ones, although
both calls come to their end, and no delivery fails. -/
theorem not_catches_of_dropped_slot :
    ¬∀ (capacity : Nat) (ms : List HubMove) (c : ConnectionId) (job : JobId),
      (ms.filterMap HubMove.joins?).Nodup → Separate (new capacity) ms →
      ∀ r : Race capacity ms c job, ∃ e ∈ received c job (new capacity) ms, e ∈ r.due := by
  intro h
  obtain ⟨e, hreceived, hdue⟩ := h 1 missingMoves 0 .nil (by decide) (by decide) missingRace
  have hfailed : received 0 .nil (new 1) missingMoves = [.ofStatus .nil .failed none none] := rfl
  have hretrying : missingRace.due = [.ofStatus .nil .retrying none none] := rfl
  rw [hfailed, List.mem_singleton] at hreceived
  rw [hretrying, List.mem_singleton] at hdue
  have hstatus := congrArg Event.status (hreceived.symm.trans hdue)
  cases hstatus

end Traffic

end JobRunner
