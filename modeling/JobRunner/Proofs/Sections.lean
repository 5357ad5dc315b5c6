import JobRunner.Proofs.HubCalls

/-!
# Calls in sections

Calls that overlap: a publication has three sections, a call to join has two, and between any two
of them the sections of other calls may come.

- `HubTask.step`: one section of a call.
- `HubTask.step_publish`, `HubTask.step_join`: without anything in between, the sections are the
  call.
- `Traffic.step`: calls begin, and sections are made in any order.
- `Traffic.Orderly`: every slot that is found belongs to the job it was found for, even if it has
  been dropped from the table since.
-/

namespace JobRunner

/-! ## Sections -/

/-- A call and what comes next in it. -/
inductive HubTask where
  | taking (e : Event)
  | announcing (e : Event) (slot : SlotId)
  | settling (e : Event) (delivered : Nat)
  | finding (c : ConnectionId) (job : JobId)
  | replaying (c : ConnectionId) (job : JobId) (slot : SlotId)
  | done

namespace HubTask

/-- One section. -/
def step (h : Hub) : HubTask → HubTask × Hub
  | taking e => (announcing e (h.takeSlot e.jobId).1, (h.takeSlot e.jobId).2)
  | announcing e slot => (settling e (h.announce slot e).1, (h.announce slot e).2)
  | settling e delivered => (done, (h.settle e).countDelivered delivered)
  | finding c job =>
    (match (h.findSlot c job).1 with
      | some slot => replaying c job slot
      | none => done, (h.findSlot c job).2)
  | replaying c job slot => (done, (h.replay c job slot).2)
  | done => (done, h)

/-- The three sections of a publication, with nothing in between. -/
theorem step_publish (h : Hub) (e : Event) :
    Nat.repeat (fun s => step s.2 s.1) 3 (taking e, h) = (done, (h.publish e).2) := rfl

/-- Who finds a slot is replayed its event next. -/
theorem step_finding_of_some {h : Hub} {job : JobId} {slot : SlotId}
    (hslot : h.cache.slots[job]? = some slot) (c : ConnectionId) :
    step h (finding c job) = (replaying c job slot, h) := by
  simp only [step, Hub.findSlot, hslot]

/-- Who finds none subscribes at once. -/
theorem step_finding_of_none {h : Hub} {job : JobId} (hslot : h.cache.slots[job]? = none)
    (c : ConnectionId) : step h (finding c job) = (done, (h.subscribe c job).2) := by
  simp only [step, Hub.findSlot, hslot]

/-- The two sections of a call to join, with nothing in between. -/
theorem step_join (h : Hub) (c : ConnectionId) (job : JobId) :
    Nat.repeat (fun s => step s.2 s.1) 2 (finding c job, h) = (done, (h.join c job).2) := by
  show step (step h (finding c job)).2 (step h (finding c job)).1 = _
  rw [Hub.join_snd]
  cases hslot : h.cache.slots[job]? with
  | none => rw [step_finding_of_none hslot]; rfl
  | some slot => rw [step_finding_of_some hslot]; rfl

/-- The call waits to tell a connection about a job. -/
def Waits (c : ConnectionId) (job : JobId) : HubTask → Prop
  | finding c' j => c' = c ∧ j = job
  | replaying c' j _ => c' = c ∧ j = job
  | _ => False

/-- The job that a connection begins to follow in a section. -/
def joins? (task : HubTask) (h : Hub) (c : ConnectionId) : Option JobId :=
  match task with
  | finding c' job => if c' = c ∧ h.cache.slots[job]? = none then some job else none
  | replaying c' job _ => if c' = c then some job else none
  | _ => none

/-- The event that a section delivers to a connection. -/
def delivery? (task : HubTask) (h : Hub) (c : ConnectionId) : Option Event :=
  match task with
  | announcing e _ => if h.subscriptions.Follows c e.jobId then some e else none
  | replaying c' _ slot => if c' = c then h.cache.cells[slot]? else none
  | _ => none

/-- The event of a job that a section stores. -/
def announced? (job : JobId) : HubTask → Option Event
  | announcing e _ => if e.jobId = job then some e else none
  | _ => none

/-- The slot that the next section uses, and the job that it has been found for. -/
def slot? : HubTask → Option (SlotId × JobId)
  | announcing e slot => some (slot, e.jobId)
  | replaying _ job slot => some (slot, job)
  | _ => none

variable {h : Hub}

/-- Every section is a turn of every connection. -/
theorem seat_step (hs : h.subscriptions.Sound) (task : HubTask) (c : ConnectionId) :
    (task.step h).2.seat c = (h.seat c).turn (task.joins? h c) (task.delivery? h c) := by
  cases task with
  | taking | done => rfl
  | announcing e slot => exact Hub.seat_announce hs slot e c
  | settling e delivered => exact Hub.seat_settle h e c
  | finding c' job => exact Hub.seat_findSlot h c c' job
  | replaying c' job slot => exact Hub.seat_replay hs c c' job slot

/-- The two indexes agree after any section. -/
theorem sound_step (hs : h.subscriptions.Sound) (task : HubTask) :
    (task.step h).2.subscriptions.Sound := by
  cases task with
  | taking | done => exact hs
  | announcing e slot => exact Hub.sound_announce hs slot e
  | settling e delivered => exact Hub.sound_settle hs e
  | finding c job => exact Hub.sound_findSlot hs c job
  | replaying c job slot => exact Hub.sound_replay hs c job slot

@[simp] theorem cache_findSlot (c : ConnectionId) (job : JobId) :
    (h.findSlot c job).2.cache = h.cache := by
  unfold Hub.findSlot
  cases h.cache.slots[job]? <;> rfl

/-- A section changes no slot but the one in which it stores an event. -/
theorem cells_step (task : HubTask) (slot : SlotId) :
    (task.step h).2.cache.cells[slot]? = h.cache.cells[slot]? ∨
      ∃ e, task = announcing e slot ∧ (task.step h).2.cache.cells[slot]? = some e := by
  cases task with
  | taking e =>
    exact .inl (congrArg (·[slot]?) (EventCache.cells_takeSlot h.cache e.jobId))
  | announcing e slot' =>
    have hcells : (step h (announcing e slot')).2.cache.cells[slot]? =
        if slot = slot' then some e else h.cache.cells[slot]? := by
      rw [← EventCache.cells_store]
      exact congrArg (·.cells[slot]?) (Hub.cache_announce h slot' e)
    by_cases hslot : slot = slot'
    · subst hslot
      exact .inr ⟨e, rfl, hcells.trans (if_pos rfl)⟩
    · exact .inl (hcells.trans (if_neg hslot))
  | settling e delivered =>
    refine .inl ?_
    show (h.settle e).cache.cells[slot]? = _
    unfold Hub.settle
    split
    · exact congrArg (·[slot]?) (EventCache.trim_keeps _ _).1
    · rfl
  | finding c job => exact .inl (by rw [step, cache_findSlot])
  | replaying c job slot' => exact .inl (by rw [step, Hub.cache_replay])
  | done => exact .inl rfl

/-- An event that is stored stands in its slot. -/
theorem cells_announcing (h : Hub) (e : Event) (slot : SlotId) :
    (step h (announcing e slot)).2.cache.cells[slot]? = some e := by
  have hcells := EventCache.cells_store h.cache slot slot e
  rw [if_pos rfl] at hcells
  exact (congrArg (·.cells[slot]?) (Hub.cache_announce h slot e)).trans hcells

/-- A section keeps the owners of slots, and the slot that it leaves to the next section belongs to
the job of the call. -/
theorem owned_step {owner : SlotId → JobId} (howned : h.cache.Owned owner) {task : HubTask}
    (hslot : ∀ slot job, task.slot? = some (slot, job) →
      slot < h.cache.nextSlot ∧ owner slot = job) :
    ∃ owner', (task.step h).2.cache.Owned owner' ∧
      (∀ slot < h.cache.nextSlot, owner' slot = owner slot) ∧
      h.cache.nextSlot ≤ (task.step h).2.cache.nextSlot ∧
      ∀ slot job, (task.step h).1.slot? = some (slot, job) →
        slot < (task.step h).2.cache.nextSlot ∧ owner' slot = job := by
  cases task with
  | taking e =>
    -- the only section that may add a slot
    obtain ⟨owner', howned', hold, hle, hlt, hnew⟩ := howned.takeSlot e.jobId
    refine ⟨owner', howned', hold, hle, ?_⟩
    rintro slot job ⟨⟩
    exact ⟨hlt, hnew⟩
  | announcing e slot =>
    obtain ⟨hlt, howner⟩ := hslot slot e.jobId rfl
    have hcache : (step h (announcing e slot)).2.cache = h.cache.store slot e :=
      Hub.cache_announce h slot e
    rw [hcache]
    exact ⟨owner, howned.store hlt howner, fun _ _ => rfl, Nat.le_refl _, nofun⟩
  | settling e delivered =>
    -- slots may leave the table here, but none changes its owner
    have hsettled : (h.settle e).cache.Owned owner ∧
        (h.settle e).cache.nextSlot = h.cache.nextSlot := by
      unfold Hub.settle
      split
      · exact ⟨howned.settle e.jobId, (EventCache.trim_keeps _ _).2.1⟩
      · exact ⟨howned, rfl⟩
    exact ⟨owner, hsettled.1, fun _ _ => rfl, Nat.le_of_eq hsettled.2.symm, nofun⟩
  | finding c job =>
    cases hfound : h.cache.slots[job]? with
    | none =>
      rw [step_finding_of_none hfound]
      exact ⟨owner, howned, fun _ _ => rfl, Nat.le_refl _, nofun⟩
    | some slot =>
      rw [step_finding_of_some hfound]
      refine ⟨owner, howned, fun _ _ => rfl, Nat.le_refl _, ?_⟩
      rintro _ _ ⟨⟩
      exact howned.slots job slot hfound
  | replaying c job slot =>
    have hcache : (step h (replaying c job slot)).2.cache = h.cache := Hub.cache_replay h c job slot
    rw [hcache]
    exact ⟨owner, howned, fun _ _ => rfl, Nat.le_refl _, nofun⟩
  | done => exact ⟨owner, howned, fun _ _ => rfl, Nat.le_refl _, nofun⟩

end HubTask

/-! ## Traffic -/

/-- A hub and the calls on it that are under way, or have been. -/
structure Traffic where
  hub : Hub
  tasks : List HubTask

/-- A call begins, or a section of one is made. -/
inductive HubMove where
  | call (call : HubCall)
  | advance (i : Nat)

/-- The sections of a call, if it has more than one. -/
def HubTask.ofCall? : HubCall → Option HubTask
  | .publish e => some (taking e)
  | .visit (.join c job) => some (finding c job)
  | _ => none

/-- A call that begins has found no slot yet. -/
theorem HubTask.slot?_of_ofCall? {call : HubCall} {task : HubTask}
    (sections : ofCall? call = some task) : task.slot? = none := by
  unfold ofCall? at sections
  split at sections <;> cases sections <;> rfl

/-- A call is made that ends the subscription of a connection to a job. -/
def HubMove.Leaves (c : ConnectionId) (job : JobId) : HubMove → Prop
  | call made => made.Leaves c job
  | advance _ => False

instance (c : ConnectionId) (job : JobId) : (m : HubMove) → Decidable (m.Leaves c job)
  | .call call => inferInstanceAs (Decidable (call.Leaves c job))
  | .advance _ => .isFalse id

/-- The connection and the job of a call to join. -/
def HubMove.joins? : HubMove → Option (ConnectionId × JobId)
  | call (.visit (.join c job)) => some (c, job)
  | _ => none

namespace Traffic

/-- A hub without calls. -/
def new (capacity : Nat) : Traffic := ⟨.empty capacity, []⟩

/-- One move. -/
def step (t : Traffic) : HubMove → Traffic
  | .call call =>
    match HubTask.ofCall? call with
    | some task => { t with tasks := t.tasks ++ [task] }
    | none => { t with hub := call.act t.hub }
  | .advance i =>
    match t.tasks[i]? with
    | some task => ⟨(task.step t.hub).2, t.tasks.set i (task.step t.hub).1⟩
    | none => t

theorem step_advance {t : Traffic} {i : Nat} {task : HubTask} (hi : t.tasks[i]? = some task) :
    t.step (.advance i) = ⟨(task.step t.hub).2, t.tasks.set i (task.step t.hub).1⟩ := by
  simp only [step, hi]

/-- Some moves. -/
def run (t : Traffic) (ms : List HubMove) : Traffic := ms.foldl step t

/-- What a move can do. -/
inductive Step (t : Traffic) : HubMove → Traffic → Prop
  | start {call : HubCall} {task : HubTask} (sections : HubTask.ofCall? call = some task) :
    Step t (.call call) { t with tasks := t.tasks ++ [task] }
  | whole {call : HubCall} (sections : HubTask.ofCall? call = none) :
    Step t (.call call) { t with hub := call.act t.hub }
  | advance {i : Nat} {task : HubTask} (at_i : t.tasks[i]? = some task) :
    Step t (.advance i) ⟨(task.step t.hub).2, t.tasks.set i (task.step t.hub).1⟩
  | idle {i : Nat} (at_i : t.tasks[i]? = none) : Step t (.advance i) t

/-- A move is a step of one task, or what comes from outside. -/
theorem step_cases (t : Traffic) (m : HubMove) : Step t m (t.step m) := by
  cases m with
  | call call =>
    cases hcall : HubTask.ofCall? call with
    | some task => simpa only [step, hcall] using Step.start hcall
    | none => simpa only [step, hcall] using Step.whole hcall
  | advance i =>
    cases hi : t.tasks[i]? with
    | some task =>
      rw [step_advance hi]
      exact .advance hi
    | none => simpa only [step, hi] using Step.idle hi

variable {t t' : Traffic} {m : HubMove} {c : ConnectionId} {job : JobId}

/-- The call whose section a move makes. -/
def task? (t : Traffic) : HubMove → Option HubTask
  | .advance i => t.tasks[i]?
  | .call _ => none

theorem mem_of_task? {task : HubTask} (htask : t.task? m = some task) : task ∈ t.tasks := by
  cases m with
  | call => cases htask
  | advance i => exact List.mem_of_getElem? htask

/-- The event that a move delivers to a connection. -/
def delivery? (t : Traffic) (m : HubMove) (c : ConnectionId) : Option Event :=
  (t.task? m).bind (·.delivery? t.hub c)

/-- The event of a job that a move stores. -/
def announced? (t : Traffic) (job : JobId) (m : HubMove) : Option Event :=
  (t.task? m).bind (·.announced? job)

/-- A move ends the subscription of a connection to a job. -/
def Ends (t : Traffic) (m : HubMove) (c : ConnectionId) (job : JobId) : Prop :=
  m.Leaves c job ∨ ((t.delivery? m c).isSome = true ∧ (t.hub.connection c).Refuses)

instance (t : Traffic) (m : HubMove) (c : ConnectionId) (job : JobId) :
    Decidable (t.Ends m c job) := inferInstanceAs (Decidable (_ ∨ _))

/-! ## Owners of slots -/

/-- The subscriptions are sound, and every slot belongs to one job, also those in use. -/
structure Orderly (t : Traffic) : Prop where
  subscriptions : t.hub.subscriptions.Sound
  cache : ∃ owner, t.hub.cache.Owned owner ∧ ∀ task ∈ t.tasks, ∀ slot job,
    task.slot? = some (slot, job) → slot < t.hub.cache.nextSlot ∧ owner slot = job

/-- New traffic is orderly. -/
theorem orderly_new (capacity : Nat) : (new capacity).Orderly :=
  ⟨Subscriptions.sound_empty, fun _ => .nil, .empty capacity _, nofun⟩

theorem Orderly.sound (ho : t.Orderly) : t.hub.Sound := by
  obtain ⟨owner, howned, -⟩ := ho.cache
  exact ⟨ho.subscriptions, owner, howned⟩

/-- A call in one piece leaves the latest events as they are, but for one that is forgotten. -/
theorem cache_whole {call : HubCall} (sections : HubTask.ofCall? call = none) (h : Hub) :
    (call.act h).cache = h.cache ∨ ∃ job, (call.act h).cache = h.cache.dropSlot job := by
  cases call with
  | publish e => cases sections
  | forget job => exact .inr ⟨job, rfl⟩
  | visit v => exact .inl (v.cache_act h)

/-- Traffic is orderly after any step. -/
theorem Step.orderly (h : Step t m t') (ho : t.Orderly) : t'.Orderly := by
  obtain ⟨owner, howned, hslots⟩ := ho.cache
  cases h with
  | start sections =>
    refine ⟨ho.subscriptions, owner, howned, fun task htask => ?_⟩
    rcases List.mem_append.mp htask with hold | hnew
    · exact hslots task hold
    · rw [List.mem_singleton.mp hnew, HubTask.slot?_of_ofCall? sections]
      exact nofun
  | @whole call sections =>
    refine ⟨(ho.sound.act call).subscriptions, owner, ?_⟩
    rcases cache_whole sections t.hub with hsame | ⟨job, hdropped⟩
    · rw [hsame]
      exact ⟨howned, hslots⟩
    · rw [hdropped]
      exact ⟨howned.dropSlot job, hslots⟩
  | @advance i task at_i =>
    have hmem : task ∈ t.tasks := List.mem_of_getElem? at_i
    obtain ⟨owner', howned', hold, hle, hnew⟩ := HubTask.owned_step howned (hslots task hmem)
    refine ⟨HubTask.sound_step ho.subscriptions task, owner', howned', fun other hother => ?_⟩
    rcases List.mem_or_eq_of_mem_set hother with hother | rfl
    · -- the slots of other calls have been given away before, and keep their owners
      intro slot job hslot
      obtain ⟨hlt, howner⟩ := hslots other hother slot job hslot
      exact ⟨Nat.lt_of_lt_of_le hlt hle, (hold slot hlt).trans howner⟩
    · exact hnew
  | idle => exact ho

/-! ## One move, seen from one connection -/

/-- A connection follows a job after a move if it has done so before or begins to, and the move does
not end that. -/
theorem Step.follows (h : Step t m t') (ho : t.Orderly) (c : ConnectionId) (job : JobId) :
    t'.hub.subscriptions.Follows c job ↔ ¬t.Ends m c job ∧
      (t.hub.subscriptions.Follows c job ∨
        (t.task? m).bind (·.joins? t.hub c) = some job) := by
  unfold Ends delivery?
  cases h with
  | @start call task sections =>
    -- only calls in one piece end subscriptions when they are made
    have hleaves : ¬call.Leaves c job := by
      unfold HubTask.ofCall? at sections
      split at sections
      · exact id
      · exact id
      · cases sections
    simp [task?, HubMove.Leaves, hleaves]
  | @whole call sections =>
    cases call with
    | publish e => cases sections
    | forget j =>
      show t.hub.subscriptions.Follows c job ↔ _
      simp [task?, HubMove.Leaves, HubCall.Leaves]
    | visit v =>
      have hjoin : ∀ c job, v ≠ .join c job := by
        rintro c job rfl
        cases sections
      refine (Hub.follows_visit ho.sound hjoin c job).trans ?_
      simp [task?, HubMove.Leaves, HubCall.Leaves]
  | @advance i task at_i =>
    refine (Hub.follows_of_turn (HubTask.seat_step ho.subscriptions task c) job).trans ?_
    simp [task?, at_i, HubMove.Leaves]
  | idle at_i => simp [task?, at_i, HubMove.Leaves]

/-- What a move delivers is accepted unless the connection refuses it, and nothing else is. -/
theorem Step.accepted (h : Step t m t') (ho : t.Orderly) (c : ConnectionId) (job : JobId) :
    Hub.accepted t.hub t'.hub c job =
      if (t.hub.connection c).Refuses then []
      else ((t.delivery? m c).filter (·.jobId = job)).toList := by
  have hnothing : t.task? m = none → Hub.accepted t.hub t'.hub c job = [] →
      Hub.accepted t.hub t'.hub c job = if (t.hub.connection c).Refuses then []
        else ((t.delivery? m c).filter (·.jobId = job)).toList := by
    intro hnone haccepted
    rw [haccepted, delivery?, hnone]
    exact (ite_self _).symm
  cases h with
  | start => exact hnothing rfl (Hub.accepted_of_length_le (Nat.le_refl _))
  | @whole call sections =>
    refine hnothing rfl ?_
    cases call with
    | publish e => cases sections
    | forget j => exact Hub.accepted_of_length_le (Nat.le_refl _)
    | visit v =>
      have hjoin : ∀ c job, v ≠ .join c job := by
        rintro c job rfl
        cases sections
      exact Hub.accepted_visit hjoin c job
  | @advance i task at_i =>
    rw [delivery?, task?, at_i]
    exact Hub.accepted_of_turn (HubTask.seat_step ho.subscriptions task c) job
  | idle at_i => exact hnothing at_i (Hub.accepted_of_length_le (Nat.le_refl _))

/-- A move changes no slot but the one in which it stores an event. -/
theorem Step.cells (h : Step t m t') (slot : SlotId) :
    t'.hub.cache.cells[slot]? = t.hub.cache.cells[slot]? ∨
      ∃ e, t.task? m = some (.announcing e slot) ∧ t'.hub.cache.cells[slot]? = some e := by
  cases h with
  | start | idle => exact .inl rfl
  | @whole call sections =>
    rcases cache_whole sections t.hub with hsame | ⟨job, hdropped⟩
    · exact .inl (by rw [hsame])
    · exact .inl (by rw [hdropped]; rfl)
  | @advance i task at_i =>
    rw [task?, at_i]
    rcases task.cells_step (h := t.hub) slot with hsame | ⟨e, rfl, hstored⟩
    · exact .inl hsame
    · exact .inr ⟨e, rfl, hstored⟩

/-- What is being announced is in its slot. -/
theorem Step.stored (h : Step t m t') {e : Event} {slot : SlotId}
    (htask : t.task? m = some (.announcing e slot)) : t'.hub.cache.cells[slot]? = some e := by
  cases h with
  | start | whole => cases htask
  | @advance i task at_i =>
    cases at_i.symm.trans htask
    exact HubTask.cells_announcing t.hub e slot
  | idle at_i => cases at_i.symm.trans htask

/-- A call that a move does not advance stays where it is. -/
theorem Step.task (h : Step t m t') {i : Nat} {task : HubTask} (at_i : t.tasks[i]? = some task)
    (hm : m ≠ .advance i) : t'.tasks[i]? = some task := by
  cases h with
  | start =>
    rw [List.getElem?_append_left (List.getElem?_eq_some_iff.mp at_i).1]
    exact at_i
  | whole | idle => exact at_i
  | @advance j task' at_j =>
    have hne : j ≠ i := fun heq => hm (by rw [heq])
    exact (List.getElem?_set_ne hne).trans at_i

end Traffic

end JobRunner
