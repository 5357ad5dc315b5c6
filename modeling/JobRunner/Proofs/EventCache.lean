import JobRunner.Hub.Basic
import Mathlib.Logic.Function.Basic
import Mathlib.Tactic.Common

/-!
# The latest events

- `EventCache.slots_trim`: which slots are dropped with the oldest settlements.
- `EventCache.Owned`: no slot is ever used for two jobs, so a slot found by one call and dropped by
  another still belongs to its job.
-/

namespace JobRunner.EventCache

variable {c : EventCache} {job : JobId} {slot : SlotId} {e : Event} {owner : SlotId → JobId}

/-! ## Single operations -/

@[simp] theorem slots_dropSlot (c : EventCache) (job j : JobId) :
    (c.dropSlot job).slots[j]? = if j = job then none else c.slots[j]? := by
  unfold dropSlot
  simp only [Std.TreeMap.getElem?_erase, Std.LawfulEqCmp.compare_eq_iff_eq, eq_comm (a := job)]

/-- A job that has a slot keeps it. -/
theorem takeSlot_of_some (h : c.slots[job]? = some slot) : c.takeSlot job = (slot, c) := by
  simp only [takeSlot, h]

/-- A job that has none is given a new one. -/
theorem takeSlot_of_none (h : c.slots[job]? = none) :
    c.takeSlot job = (c.nextSlot,
      { c with slots := c.slots.insert job c.nextSlot, nextSlot := c.nextSlot + 1 }) := by
  simp only [takeSlot, h]

/-- A slot that is taken is found in the table, and the others stay there. -/
theorem slots_takeSlot (c : EventCache) (job j : JobId) :
    (c.takeSlot job).2.slots[j]? = if j = job then some (c.takeSlot job).1 else c.slots[j]? := by
  cases h : c.slots[job]? with
  | none =>
    rw [takeSlot_of_none h]
    simp only [Std.TreeMap.getElem?_insert, Std.LawfulEqCmp.compare_eq_iff_eq, eq_comm (a := job)]
  | some slot =>
    rw [takeSlot_of_some h]
    split
    · next hj => rw [hj, h]
    · rfl

@[simp] theorem cells_takeSlot (c : EventCache) (job : JobId) :
    (c.takeSlot job).2.cells = c.cells := by
  cases h : c.slots[job]? with
  | none => rw [takeSlot_of_none h]
  | some slot => rw [takeSlot_of_some h]

theorem takeSlot_keeps (c : EventCache) (job : JobId) :
    (c.takeSlot job).2.settled = c.settled ∧ (c.takeSlot job).2.capacity = c.capacity := by
  cases h : c.slots[job]? with
  | none =>
    rw [takeSlot_of_none h]
    exact ⟨rfl, rfl⟩
  | some slot =>
    rw [takeSlot_of_some h]
    exact ⟨rfl, rfl⟩

/-- Stores an event in a slot. -/
def store (c : EventCache) (slot : SlotId) (e : Event) : EventCache :=
  { c with cells := c.cells.insert slot e }

/-- What is stored replaces what was in the slot. -/
theorem cells_store (c : EventCache) (slot slot' : SlotId) (e : Event) :
    (c.store slot e).cells[slot']? = if slot' = slot then some e else c.cells[slot']? := by
  unfold store
  simp only [Std.TreeMap.getElem?_insert, Std.LawfulEqCmp.compare_eq_iff_eq, eq_comm (a := slot)]

/-! ## Settlements -/

/-- Drops the slot of a job unless that is going on. -/
def evict (c : EventCache) (job : JobId) : EventCache :=
  if c.isEvictable job then c.dropSlot job else c

/-- An eviction takes at most a slot. -/
theorem evict_keeps (c : EventCache) (job : JobId) :
    (c.evict job).cells = c.cells ∧ (c.evict job).nextSlot = c.nextSlot ∧
      (c.evict job).capacity = c.capacity ∧ (c.evict job).settled = c.settled := by
  unfold evict
  split <;> exact ⟨rfl, rfl, rfl, rfl⟩

/-- It takes the slot of its job unless the job goes on. -/
theorem slots_evict (c : EventCache) (job j : JobId) :
    (c.evict job).slots[j]? =
      if j = job ∧ c.isEvictable j = true then none else c.slots[j]? := by
  unfold evict
  split
  · next hjob =>
    rw [slots_dropSlot]
    by_cases hj : j = job
    · simp [hj, hjob]
    · simp [hj]
  · next hjob =>
    refine (if_neg ?_).symm
    rintro ⟨rfl, hj⟩
    exact hjob hj

/-- A job that has been evicted cannot be evicted again. -/
theorem isEvictable_evict (c : EventCache) (job j : JobId) :
    (c.evict job).isEvictable j = if j = job then false else c.isEvictable j := by
  have hslots := slots_evict c job j
  obtain ⟨hcells, -⟩ := evict_keeps c job
  split
  · next hj =>
    subst hj
    by_cases hjob : c.isEvictable j = true
    · rw [if_pos ⟨rfl, hjob⟩] at hslots
      simp only [isEvictable, hslots]
    · rw [evict, if_neg hjob]
      exact Bool.not_eq_true _ ▸ hjob
  · next hj =>
    rw [if_neg fun h => hj h.1] at hslots
    simp only [isEvictable, hslots, hcells]

theorem trim_nil {n : Nat} (h : c.settled = []) : c.trim n = c := by
  cases n with
  | zero => rfl
  | succ n => simp only [trim, h]

/-- A trim evicts the oldest first. -/
theorem trim_cons {oldest : JobId} {settled : List JobId} (h : c.settled = oldest :: settled)
    (n : Nat) : c.trim (n + 1) = (({ c with settled } : EventCache).evict oldest).trim n := by
  simp only [trim, h]
  rfl

/-- A trim takes nothing but slots and the front of the line. -/
theorem trim_keeps (c : EventCache) (n : Nat) :
    (c.trim n).cells = c.cells ∧ (c.trim n).nextSlot = c.nextSlot ∧
      (c.trim n).capacity = c.capacity ∧ (c.trim n).settled = c.settled.drop n := by
  induction n generalizing c with
  | zero => exact ⟨rfl, rfl, rfl, rfl⟩
  | succ n ih =>
    cases hs : c.settled with
    | nil =>
      rw [trim_nil hs, hs]
      exact ⟨rfl, rfl, rfl, rfl⟩
    | cons oldest settled =>
      obtain ⟨hcells, hnext, hcapacity, hsettled⟩ := evict_keeps { c with settled } oldest
      rw [trim_cons hs, List.drop_succ_cons]
      obtain ⟨hcells', hnext', hcapacity', hsettled'⟩ := ih _
      exact ⟨hcells'.trans hcells, hnext'.trans hnext, hcapacity'.trans hcapacity,
        hsettled'.trans (congrArg (List.drop n) hsettled)⟩

/-- With the oldest settlements go the slots of their jobs, unless these are going on again. -/
theorem slots_trim (c : EventCache) (n : Nat) (job : JobId) :
    (c.trim n).slots[job]? =
      if job ∈ c.settled.take n ∧ c.isEvictable job = true then none else c.slots[job]? := by
  induction n generalizing c with
  | zero => simp [trim]
  | succ n ih =>
    cases hs : c.settled with
    | nil =>
      rw [trim_nil hs]
      simp
    | cons oldest settled =>
      have hsettled := (evict_keeps { c with settled } oldest).2.2.2
      rw [trim_cons hs, ih, hsettled, isEvictable_evict, slots_evict]
      have hsame : ({ c with settled } : EventCache).isEvictable = c.isEvictable := rfl
      rw [hsame]
      -- the slot of the oldest may be dropped now, and those of the others later
      by_cases hjob : job = oldest
      · simp [hjob]
      · simp [hjob]

/-! ## Latest events -/

/-- A job without a slot has no event. -/
theorem latest?_dropSlot (c : EventCache) (job j : JobId) :
    (c.dropSlot job).latest? j = if j = job then none else c.latest? j := by
  unfold latest?
  rw [slots_dropSlot]
  split <;> rfl

/-- With the oldest settlements go the final events of their jobs. -/
theorem latest?_trim (c : EventCache) (n : Nat) (job : JobId) :
    (c.trim n).latest? job = (c.latest? job).filter fun e =>
      ¬(job ∈ c.settled.take n ∧ e.status.isTerminal = true) := by
  unfold latest?
  rw [slots_trim, (trim_keeps c n).1]
  unfold isEvictable
  cases c.slots[job]? with
  | none => simp
  | some slot =>
    show (if job ∈ c.settled.take n ∧ c.cells[slot]?.all (·.status.isTerminal) = true then none
      else some slot).bind (fun slot => c.cells[slot]?) = c.cells[slot]?.filter _
    cases hcell : c.cells[slot]? with
    | none =>
      split
      · rfl
      · exact hcell
    | some e =>
      rw [Option.all_some]
      split
      · next hdropped =>
        rw [Option.filter_some, if_neg (by simpa using hdropped)]
        rfl
      · next hkept =>
        rw [Option.filter_some, if_pos (decide_eq_true hkept)]
        exact hcell

/-! ## Owners of slots -/

/-- Every slot has one owner, the job under which it is found and whose events it holds. -/
structure Owned (c : EventCache) (owner : SlotId → JobId) : Prop where
  slots : ∀ job slot, c.slots[job]? = some slot → slot < c.nextSlot ∧ owner slot = job
  cells : ∀ slot e, c.cells[slot]? = some e → slot < c.nextSlot ∧ owner slot = e.jobId

namespace Owned

/-- An empty cache suits any owners. -/
theorem empty (capacity : Nat) (owner : SlotId → JobId) : (empty capacity).Owned owner := by
  constructor
  · intro job slot h
    simp [EventCache.empty] at h
  · intro slot e h
    simp [EventCache.empty] at h

/-- The latest event of a job is one of its own. -/
theorem jobId_of_latest? (h : c.Owned owner) (hlatest : c.latest? job = some e) :
    e.jobId = job := by
  obtain ⟨slot, hslot, hcell⟩ := Option.bind_eq_some_iff.mp hlatest
  rw [← (h.cells slot e hcell).2, (h.slots job slot hslot).2]

/-- A slot that is new gets its owner when it is taken, and none has been given away before. -/
theorem takeSlot (h : c.Owned owner) (job : JobId) :
    ∃ owner', (c.takeSlot job).2.Owned owner' ∧ (∀ slot < c.nextSlot, owner' slot = owner slot) ∧
      c.nextSlot ≤ (c.takeSlot job).2.nextSlot ∧
      (c.takeSlot job).1 < (c.takeSlot job).2.nextSlot ∧ owner' (c.takeSlot job).1 = job := by
  cases hslot : c.slots[job]? with
  | some slot =>
    obtain ⟨hlt, howner⟩ := h.slots job slot hslot
    rw [takeSlot_of_some hslot]
    exact ⟨owner, h, fun _ _ => rfl, Nat.le_refl _, hlt, howner⟩
  | none =>
    have hold : ∀ slot < c.nextSlot, Function.update owner c.nextSlot job slot = owner slot :=
      fun slot hlt => Function.update_of_ne (Nat.ne_of_lt hlt) job owner
    have hslots := slots_takeSlot c job
    rw [takeSlot_of_none hslot] at hslots ⊢
    refine ⟨Function.update owner c.nextSlot job, ⟨fun j slot hj => ?_, fun slot e hcell => ?_⟩,
      hold, Nat.le_succ _, Nat.lt_succ_self _, Function.update_self c.nextSlot job owner⟩
    · rw [hslots j] at hj
      split at hj
      · next hjob =>
        cases hj
        exact ⟨Nat.lt_succ_self _, (Function.update_self c.nextSlot job owner).trans hjob.symm⟩
      · obtain ⟨hlt, howner⟩ := h.slots j slot hj
        exact ⟨Nat.lt_succ_of_lt hlt, (hold slot hlt).trans howner⟩
    · obtain ⟨hlt, howner⟩ := h.cells slot e hcell
      exact ⟨Nat.lt_succ_of_lt hlt, (hold slot hlt).trans howner⟩

/-- A slot is filled with events of its owner. -/
theorem store (h : c.Owned owner) (hlt : slot < c.nextSlot) (howner : owner slot = e.jobId) :
    (c.store slot e).Owned owner := by
  refine ⟨h.slots, fun slot' e' hcell => ?_⟩
  rw [cells_store] at hcell
  split at hcell
  · next hslot =>
    cases hcell
    subst hslot
    exact ⟨hlt, howner⟩
  · exact h.cells slot' e' hcell

/-- What is stored in the slot of a job is the latest event of that job, and of no other. -/
theorem latest?_store (h : c.Owned owner) (job j : JobId) :
    ((c.takeSlot job).2.store (c.takeSlot job).1 e).latest? j =
      if j = job then some e else c.latest? j := by
  obtain ⟨owner', howned, -, -, -, howner⟩ := h.takeSlot job
  show (c.takeSlot job).2.slots[j]?.bind (fun slot =>
    ((c.takeSlot job).2.store (c.takeSlot job).1 e).cells[slot]?) = _
  have hslots := slots_takeSlot c job j
  split
  · next hj =>
    rw [hslots, if_pos hj, Option.bind_some, cells_store, if_pos rfl]
  · next hj =>
    rw [if_neg hj] at hslots
    rw [hslots, latest?]
    cases hslot : c.slots[j]? with
    | none => rfl
    | some slot =>
      -- the slot of another job is not the one in which the event is stored
      have hother : slot ≠ (c.takeSlot job).1 := by
        rintro rfl
        exact hj ((howned.slots j _ (hslots.trans hslot)).2.symm.trans howner)
      rw [Option.bind_some, Option.bind_some, cells_store, if_neg hother, cells_takeSlot]

theorem dropSlot (h : c.Owned owner) (job : JobId) : (c.dropSlot job).Owned owner := by
  refine ⟨fun j slot hj => ?_, h.cells⟩
  rw [slots_dropSlot] at hj
  split at hj
  · cases hj
  · exact h.slots j slot hj

theorem trim (h : c.Owned owner) (n : Nat) : (c.trim n).Owned owner := by
  obtain ⟨hcells, hnext, -⟩ := trim_keeps c n
  constructor
  · intro job slot hslot
    rw [slots_trim] at hslot
    rw [hnext]
    split at hslot
    · cases hslot
    · exact h.slots job slot hslot
  · rw [hcells, hnext]
    exact h.cells

/-- The clean-up changes no owner. -/
theorem settle (h : c.Owned owner) (job : JobId) : (c.settle job).Owned owner :=
  trim (c := { c with settled := c.settled ++ [job] }) ⟨h.slots, h.cells⟩ _

end Owned

end JobRunner.EventCache
