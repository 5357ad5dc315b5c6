import JobRunner.Proofs.Sections

/-!
# Slots that stay

As long as no more jobs settle than the cache remembers, and none is forgotten, no slot is dropped.

- `Traffic.Roomy`: all slots in use are in the table, and there is room for the calls that will
  settle a job yet.
- `Traffic.Step.roomy`, `Traffic.Roomy.run`: moves keep that, and every slot in the table.
-/

namespace JobRunner

/-! ## Sections -/

namespace HubTask

/-- The call will settle a job yet. -/
def settles : HubTask → Bool
  | taking e | announcing e _ | settling e _ => e.status.isTerminal
  | _ => false

/-- What a section does to the table if it drops no slot. -/
structure Keeps (task : HubTask) (h : Hub) : Prop where
  capacity : (task.step h).2.cache.capacity = h.cache.capacity
  slots : ∀ (job : JobId) (slot : SlotId), h.cache.slots[job]? = some slot →
    (task.step h).2.cache.slots[job]? = some slot
  /-- A slot that is found is in the table. -/
  found : ∀ slot job, (task.step h).1.slot? = some (slot, job) →
    (task.step h).2.cache.slots[job]? = some slot
  /-- A settlement takes the place that was meant for it. -/
  settled : (task.step h).2.cache.settled.length + (if (task.step h).1.settles then 1 else 0) =
    h.cache.settled.length + (if task.settles then 1 else 0)

variable {h : Hub}

/-- Of a section that leaves the latest events as they are. -/
private theorem keeps_of_cache_eq {task : HubTask} (hcache : (task.step h).2.cache = h.cache)
    (hfound : ∀ slot job, (task.step h).1.slot? = some (slot, job) →
      h.cache.slots[job]? = some slot)
    (hsettles : (task.step h).1.settles = task.settles) : task.Keeps h := by
  constructor
  · rw [hcache]
  · rw [hcache]
    exact fun _ _ hslot => hslot
  · rw [hcache]
    exact hfound
  · rw [hcache, hsettles]

/-- The section that takes a slot finds it in the table afterwards. -/
private theorem keeps_taking (e : Event) : (taking e).Keeps h := by
  have hslots := EventCache.slots_takeSlot h.cache e.jobId
  obtain ⟨hsettled, hcapacity⟩ := h.cache.takeSlot_keeps e.jobId
  refine ⟨hcapacity, fun job slot hslot => (hslots job).trans ?_, ?_, ?_⟩
  · split
    · next hjob =>
      rw [hjob] at hslot
      rw [EventCache.takeSlot_of_some hslot]
    · exact hslot
  · rintro slot job ⟨⟩
    exact (hslots e.jobId).trans (if_pos rfl)
  · exact congrArg (·.length + _) hsettled

/-- A job that settles where there is room for it is added to those that have settled. -/
private theorem cache_settling {e : Event} (hfinal : e.status.isTerminal = true)
    (hroom : h.cache.settled.length < h.cache.capacity) (delivered : Nat) :
    ((settling e delivered).step h).2.cache =
      { h.cache with settled := h.cache.settled ++ [e.jobId] } := by
  -- there is nothing to trim
  have hexcess : (h.cache.settled ++ [e.jobId]).length - h.cache.capacity = 0 := by
    rw [List.length_append, List.length_singleton]
    omega
  show (h.settle e).cache = _
  rw [Hub.settle, if_pos hfinal]
  show EventCache.trim _ ((h.cache.settled ++ [e.jobId]).length - h.cache.capacity) = _
  rw [hexcess]
  rfl

/-- A section that finds room for its settlement drops no slot. -/
theorem keeps_step {task : HubTask}
    (hroom : task.settles = true → h.cache.settled.length < h.cache.capacity) : task.Keeps h := by
  cases task with
  | taking e => exact keeps_taking e
  | announcing e slot =>
    have hcache : (step h (announcing e slot)).2.cache = h.cache.store slot e :=
      Hub.cache_announce h slot e
    constructor
    · rw [hcache]
      rfl
    · rw [hcache]
      exact fun _ _ hslot => hslot
    · rintro _ _ ⟨⟩
    · rw [hcache]
      rfl
  | settling e delivered =>
    by_cases hfinal : e.status.isTerminal = true
    · -- there is room for one more, so nothing is dropped
      have hcache := cache_settling hfinal (hroom hfinal) delivered
      constructor
      · rw [hcache]
      · rw [hcache]
        exact fun _ _ hslot => hslot
      · rintro _ _ ⟨⟩
      · rw [hcache, List.length_append]
        simp [step, settles, hfinal]
    · have hcache : (step h (settling e delivered)).2.cache = h.cache := by
        show (h.settle e).cache = _
        rw [Hub.settle, if_neg hfinal]
      refine keeps_of_cache_eq hcache ?_ (by simp [step, settles, hfinal])
      rintro _ _ ⟨⟩
  | finding c job =>
    cases hfound : h.cache.slots[job]? with
    | none =>
      have hstep := step_finding_of_none hfound c
      refine keeps_of_cache_eq (by rw [hstep]; rfl) ?_ (by rw [hstep]; rfl)
      rw [hstep]
      rintro _ _ ⟨⟩
    | some slot =>
      have hstep := step_finding_of_some hfound c
      refine keeps_of_cache_eq (by rw [hstep]) ?_ (by rw [hstep]; rfl)
      rw [hstep]
      rintro _ _ ⟨⟩
      exact hfound
  | replaying c job slot =>
    refine keeps_of_cache_eq (Hub.cache_replay h c job slot) ?_ rfl
    rintro _ _ ⟨⟩
  | done =>
    refine keeps_of_cache_eq rfl ?_ rfl
    rintro _ _ ⟨⟩

end HubTask

/-! ## Moves -/

/-- The job that a call settles which begins. -/
def HubMove.settlement? : HubMove → Option JobId
  | call made => made.settlement?
  | advance _ => none

/-- A call in sections will settle what the call settles. -/
theorem HubTask.countP_settles_of_ofCall? {call : HubCall} {task : HubTask}
    (sections : ofCall? call = some task) :
    [task].countP settles = call.settlement?.toList.length := by
  unfold ofCall? at sections
  split at sections <;> cases sections
  · next e =>
    unfold HubCall.settlement?
    by_cases hfinal : e.status.isTerminal = true <;> simp [settles, hfinal]
  · rfl

namespace Traffic

variable {t t' : Traffic} {m : HubMove} {capacity n : Nat}

/-- All slots in use are in the table, and no more than `n` settlements have been or will be made by
the calls so far. -/
structure Roomy (t : Traffic) (capacity n : Nat) : Prop where
  capacity : t.hub.cache.capacity = capacity
  slots : ∀ task ∈ t.tasks, ∀ (slot : SlotId) (job : JobId), task.slot? = some (slot, job) →
    t.hub.cache.slots[job]? = some slot
  settled : t.hub.cache.settled.length + t.tasks.countP HubTask.settles ≤ n

theorem roomy_new (capacity : Nat) : (new capacity).Roomy capacity 0 :=
  ⟨rfl, nofun, Nat.le_refl _⟩

/-- The settlement of a call that is going on is among those that there is room for. -/
theorem Roomy.room (hr : t.Roomy capacity n) (room : n ≤ capacity) {task : HubTask}
    (hmem : task ∈ t.tasks) (hsettles : task.settles = true) :
    t.hub.cache.settled.length < t.hub.cache.capacity := by
  have hpos : 0 < t.tasks.countP HubTask.settles :=
    List.countP_pos_iff.mpr ⟨task, hmem, hsettles⟩
  have hsettled := hr.settled
  rw [hr.capacity]
  omega

/-- A section makes the settlement that was counted for it. -/
theorem Roomy.settled_advance (hr : t.Roomy capacity n) {i : Nat} {task : HubTask}
    (at_i : t.tasks[i]? = some task) (hkeeps : task.Keeps t.hub) :
    (task.step t.hub).2.cache.settled.length +
      (t.tasks.set i (task.step t.hub).1).countP HubTask.settles ≤ n := by
  obtain ⟨hlt, hi⟩ := List.getElem?_eq_some_iff.mp at_i
  have hcount := List.countP_set (p := HubTask.settles) (a := (task.step t.hub).1) hlt
  rw [hi] at hcount
  -- what is taken off the count has been in it
  have hpos : (if task.settles = true then 1 else 0) ≤ t.tasks.countP HubTask.settles := by
    split
    · next hsettles =>
      exact List.countP_pos_iff.mpr ⟨task, List.mem_of_getElem? at_i, hsettles⟩
    · exact Nat.zero_le _
  have hbefore := hr.settled
  have hafter := hkeeps.settled
  omega

/-- If nothing is forgotten, and the settlements are not more than the capacity, then a move drops
no slot. -/
theorem Step.roomy (h : Step t m t') (hr : t.Roomy capacity n) (room : n ≤ capacity)
    (kept : ∀ job, m ≠ .call (.forget job)) :
    t'.Roomy capacity (n + m.settlement?.toList.length) ∧
      ∀ (job : JobId) (slot : SlotId), t.hub.cache.slots[job]? = some slot →
        t'.hub.cache.slots[job]? = some slot := by
  cases h with
  | @start call task sections =>
    refine ⟨⟨hr.capacity, fun task' hmem => ?_, ?_⟩, fun _ _ hslot => hslot⟩
    · rcases List.mem_append.mp hmem with hold | hnew
      · exact hr.slots task' hold
      · -- a call that begins has found no slot yet
        rw [List.mem_singleton.mp hnew, HubTask.slot?_of_ofCall? sections]
        exact nofun
    · show t.hub.cache.settled.length + (t.tasks ++ [task]).countP HubTask.settles ≤ _
      rw [List.countP_append, HubTask.countP_settles_of_ofCall? sections, ← Nat.add_assoc]
      exact Nat.add_le_add_right hr.settled _
  | @whole call sections =>
    cases call with
    | publish e => cases sections
    | forget job => exact absurd rfl (kept job)
    | visit v =>
      have hcache : (v.act t.hub).cache = t.hub.cache := v.cache_act t.hub
      refine ⟨⟨?_, ?_, ?_⟩, ?_⟩
      · exact (congrArg EventCache.capacity hcache).trans hr.capacity
      · show ∀ task ∈ t.tasks, ∀ (slot : SlotId) (job : JobId), _ →
          (v.act t.hub).cache.slots[job]? = _
        rw [hcache]
        exact hr.slots
      · show (v.act t.hub).cache.settled.length + _ ≤ _
        rw [hcache]
        exact hr.settled
      · show ∀ (job : JobId) (slot : SlotId), _ → (v.act t.hub).cache.slots[job]? = _
        rw [hcache]
        exact fun _ _ hslot => hslot
  | @advance i task at_i =>
    have hmem : task ∈ t.tasks := List.mem_of_getElem? at_i
    have hkeeps : task.Keeps t.hub := HubTask.keeps_step (hr.room room hmem)
    refine ⟨⟨hkeeps.capacity.trans hr.capacity, fun other hother slot job hslot => ?_,
      hr.settled_advance at_i hkeeps⟩, hkeeps.slots⟩
    rcases List.mem_or_eq_of_mem_set hother with hold | rfl
    · exact hkeeps.slots job slot (hr.slots other hold slot job hslot)
    · exact hkeeps.found slot job hslot
  | idle => exact ⟨hr, fun _ _ hslot => hslot⟩

/-- The jobs that calls settle which begin in the course of some moves. -/
def settlements (ms : List HubMove) : List JobId := ms.filterMap HubMove.settlement?

theorem settlements_cons (m : HubMove) (ms : List HubMove) :
    settlements (m :: ms) = m.settlement?.toList ++ settlements ms := by
  unfold settlements
  rw [List.filterMap_cons]
  cases m.settlement? <;> rfl

theorem settlements_append (ms ms' : List HubMove) :
    settlements (ms ++ ms') = settlements ms ++ settlements ms' := List.filterMap_append

/-- No slot is dropped as long as there is room for all settlements. -/
theorem Roomy.run {ms : List HubMove} (hr : t.Roomy capacity n)
    (room : n + (settlements ms).length ≤ capacity) (kept : ∀ job, .call (.forget job) ∉ ms) :
    (t.run ms).Roomy capacity (n + (settlements ms).length) ∧
      ∀ (job : JobId) (slot : SlotId), t.hub.cache.slots[job]? = some slot →
        (t.run ms).hub.cache.slots[job]? = some slot := by
  induction ms generalizing t n with
  | nil => exact ⟨hr, fun _ _ hslot => hslot⟩
  | cons m ms ih =>
    rw [settlements_cons, List.length_append, ← Nat.add_assoc] at room ⊢
    have hm : ∀ job, m ≠ .call (.forget job) := fun job heq => kept job (heq ▸ List.mem_cons_self)
    have hms : ∀ job, .call (.forget job) ∉ ms := fun job hmem =>
      kept job (List.mem_cons_of_mem m hmem)
    obtain ⟨hnext, hslots⟩ := (t.step_cases m).roomy hr (by omega) hm
    obtain ⟨hlast, hrest⟩ := ih hnext room hms
    exact ⟨hlast, fun job slot hslot => hrest job slot (hslots job slot hslot)⟩

end Traffic

end JobRunner
