import JobRunner.Proofs.Retention
import JobRunner.Proofs.Streams
import Mathlib.Data.List.Perm.Subperm

/-!
# How many latest events are kept

The cache holds the last event of every job that is going on, and of at most as many others as the
capacity allows.

- `Hub.last?`, `Hub.ongoing`: the last event that calls publish for a job, and the jobs whose last
  event is not final.
- `EventCache.Filled`, `EventCache.Settled`: every slot holds an event, and every job whose slot
  holds a final one is among the settlements remembered. The list may name other jobs as well, and
  some twice: jobs that have been tried again since, dropped or forgotten.
- `Hub.bounded_calls`: what the cache holds after any calls, and how much.
-/

namespace JobRunner

/-! ## Slots and settlements -/

namespace EventCache

variable {c : EventCache} {job : JobId}

/-- Every slot in the table holds an event. -/
def Filled (c : EventCache) : Prop :=
  ∀ (job : JobId) (slot : SlotId), c.slots[job]? = some slot → ∃ e, c.cells[slot]? = some e

/-- Every job whose latest event is final is among the settlements remembered, or `others`. -/
def Settled (c : EventCache) (others : List JobId) : Prop :=
  ∀ job e, c.latest? job = some e → e.status.isTerminal = true → job ∈ c.settled ++ others

/-- An empty cache has no slot without an event. -/
theorem filled_empty (capacity : Nat) : (empty capacity).Filled := by
  intro job slot hslot
  simp [empty] at hslot

theorem settled_empty (capacity : Nat) : (empty capacity).Settled [] := by
  intro job e hlatest
  simp [latest?, empty] at hlatest

/-- A slot that is taken is filled at once. -/
theorem Filled.stored (h : c.Filled) (e : Event) :
    ((c.takeSlot e.jobId).2.store (c.takeSlot e.jobId).1 e).Filled := by
  intro job slot hslot
  have hslots : (c.takeSlot e.jobId).2.slots[job]? = some slot := hslot
  rw [cells_store, cells_takeSlot]
  rw [slots_takeSlot] at hslots
  split
  · exact ⟨e, rfl⟩
  · next hother =>
    by_cases hjob : job = e.jobId
    · rw [if_pos hjob] at hslots
      exact absurd (Option.some.inj hslots).symm hother
    · rw [if_neg hjob] at hslots
      exact h job slot hslots

theorem Filled.dropSlot (h : c.Filled) (job : JobId) : (c.dropSlot job).Filled := by
  intro j slot hslot
  rw [slots_dropSlot] at hslot
  split at hslot
  · cases hslot
  · exact h j slot hslot

/-- The clean-up empties no slot that it leaves in the table. -/
theorem Filled.settle (h : c.Filled) (job : JobId) : (c.settle job).Filled := by
  intro j slot hslot
  unfold EventCache.settle at hslot ⊢
  rw [slots_trim] at hslot
  rw [(trim_keeps _ _).1]
  split at hslot
  · cases hslot
  · exact h j slot hslot

/-- A job that settles is remembered, and those that leave the window lose their final events. -/
theorem Settled.settle (h : c.Settled [job]) : (c.settle job).Settled [] := by
  intro j e hlatest hfinal
  have hkeeps := (trim_keeps { c with settled := c.settled ++ [job] }
    ((c.settled ++ [job]).length - c.capacity)).2.2.2
  have htrimmed := latest?_trim { c with settled := c.settled ++ [job] }
    ((c.settled ++ [job]).length - c.capacity) j
  rw [List.append_nil]
  rw [EventCache.settle] at hlatest ⊢
  rw [htrimmed] at hlatest
  obtain ⟨hold, hkept⟩ := Option.filter_eq_some_iff.mp hlatest
  have hmem : j ∈ c.settled ++ [job] := h j e hold hfinal
  -- it is in the window or has left it, and in the latter case its event would be gone
  rw [← List.take_append_drop ((c.settled ++ [job]).length - c.capacity) (c.settled ++ [job]),
    List.mem_append] at hmem
  rw [hkeeps]
  refine hmem.resolve_left fun hdropped => ?_
  exact of_decide_eq_true hkept ⟨hdropped, hfinal⟩

end EventCache

/-! ## What calls publish -/

namespace Hub

variable {h : Hub} {job : JobId} {e : Event} {capacity : Nat} {cs : List HubCall}

/-- The last event that some calls publish for a job. -/
def last? (job : JobId) (cs : List HubCall) : Option Event := (published job cs).getLast?

/-- A job has been forgotten and has published nothing since. -/
def Forgotten (job : JobId) (cs : List HubCall) : Prop :=
  ∃ before after, cs = before ++ .forget job :: after ∧ published job after = []

/-- The jobs whose last event is not final, each once. -/
def ongoing (cs : List HubCall) : List JobId :=
  ((cs.filterMap HubCall.event?).map (·.jobId)).dedup.filter fun job =>
    (last? job cs).any fun e => !e.status.isTerminal

/-- The jobs whose latest event is cached and final. -/
def cachedFinal (h : Hub) : List JobId :=
  h.cache.slots.keys.filter fun job => (h.latest? job).any (·.status.isTerminal)

/-- What has been published is what had been and what the last call publishes. -/
theorem published_append_singleton (job : JobId) (cs : List HubCall) (call : HubCall) :
    published job (cs ++ [call]) = published job cs ++ (call.published? job).toList := by
  unfold published
  rw [List.filterMap_append, List.filterMap_cons]
  cases call.published? job <;> rfl

theorem last?_append_singleton (job : JobId) (cs : List HubCall) (call : HubCall) :
    last? job (cs ++ [call]) = (call.published? job).or (last? job cs) := by
  unfold last?
  rw [published_append_singleton]
  cases call.published? job with
  | none => simp
  | some e => simp

/-- Who has published is known by the job of the event. -/
theorem mem_publishers_of_last? (hlast : last? job cs = some e) :
    job ∈ (cs.filterMap HubCall.event?).map (·.jobId) := by
  have hmem : e ∈ published job cs := List.mem_of_getLast? hlast
  obtain ⟨call, hcall, hpublished⟩ := List.mem_filterMap.mp hmem
  cases call with
  | publish e' =>
    rw [HubCall.published?] at hpublished
    split at hpublished
    · next hjob =>
      exact List.mem_map.mpr ⟨e', List.mem_filterMap.mpr ⟨_, hcall, rfl⟩, hjob⟩
    · cases hpublished
  | forget | visit => cases hpublished

/-- A job that is not forgotten after a call was not before, unless it has published with it. -/
theorem not_forgotten_of_append {call : HubCall} (hkept : ¬Forgotten job (cs ++ [call]))
    (hquiet : call.published? job = none) : ¬Forgotten job cs ∧ call ≠ .forget job := by
  constructor
  · rintro ⟨before, after, rfl, hnone⟩
    refine hkept ⟨before, after ++ [call], by simp, ?_⟩
    rw [published_append_singleton, hnone, hquiet]
    rfl
  · rintro rfl
    exact hkept ⟨cs, [], rfl, rfl⟩

/-! ## What the cache holds -/

/-- The cache after some calls: its slots, and the settlements behind the final ones. -/
private structure Holds (h : Hub) (cs : List HubCall) : Prop where
  filled : h.cache.Filled
  settled : h.cache.Settled []
  last : ∀ job e, h.latest? job = some e → last? job cs = some e
  kept : ∀ job e, last? job cs = some e → e.status.isTerminal = false → ¬Forgotten job cs →
    h.latest? job = some e

/-- No call leaves a slot without an event. -/
theorem filled_act (hf : h.cache.Filled) (call : HubCall) : (call.act h).cache.Filled := by
  cases call with
  | publish e =>
    show (h.publish e).2.cache.Filled
    rw [cache_publish]
    dsimp only
    split
    · exact (hf.stored e).settle e.jobId
    · exact hf.stored e
  | forget job => exact hf.dropSlot job
  | visit v =>
    show (v.act h).cache.Filled
    rw [v.cache_act]
    exact hf

/-- After any call, a job whose latest event is final is in line. -/
theorem settled_act (hs : h.Sound) (hsettled : h.cache.Settled []) (call : HubCall) :
    (call.act h).cache.Settled [] := by
  cases call with
  | publish e =>
    obtain ⟨owner, howned⟩ := hs.cache
    have hstored : ∀ j e', ((h.cache.takeSlot e.jobId).2.store
        (h.cache.takeSlot e.jobId).1 e).latest? j = some e' → e'.status.isTerminal = true →
        (j = e.jobId ∧ e' = e) ∨ j ∈ h.cache.settled := by
      intro j e' hlatest hfinal
      rw [howned.latest?_store] at hlatest
      split at hlatest
      · next hj => exact .inl ⟨hj, (Option.some.inj hlatest).symm⟩
      · exact .inr (by simpa using hsettled j e' hlatest hfinal)
    have hkeeps := (h.cache.takeSlot_keeps e.jobId).1
    show (h.publish e).2.cache.Settled []
    rw [cache_publish]
    dsimp only
    split
    · -- the job settles, and nothing else becomes final
      refine EventCache.Settled.settle fun j e' hlatest hfinal => ?_
      show j ∈ (h.cache.takeSlot e.jobId).2.settled ++ [e.jobId]
      rw [hkeeps, List.mem_append, List.mem_singleton]
      exact (hstored j e' hlatest hfinal).symm.imp_right And.left
    · next hgoing =>
      intro j e' hlatest hfinal
      show j ∈ (h.cache.takeSlot e.jobId).2.settled ++ []
      rw [hkeeps, List.append_nil]
      refine (hstored j e' hlatest hfinal).resolve_left ?_
      rintro ⟨-, rfl⟩
      exact hgoing hfinal
  | forget job =>
    intro j e hlatest hfinal
    have hdropped : (h.cache.dropSlot job).latest? j = some e := hlatest
    rw [EventCache.latest?_dropSlot] at hdropped
    split at hdropped
    · cases hdropped
    · exact hsettled j e hdropped hfinal
  | visit v =>
    show (v.act h).cache.Settled []
    rw [v.cache_act]
    exact hsettled

/-- A job that is forgotten has no latest event then. -/
theorem latest?_forget (h : Hub) (job : JobId) : (h.forget job).2.latest? job = none :=
  (EventCache.latest?_dropSlot h.cache job job).trans (if_pos rfl)

/-- After one more call the cache holds what it should. -/
private theorem Holds.act {settled : List JobId} (hholds : h.Holds cs) (hs : h.Sound)
    (hr : h.cache.Remembers capacity settled) (call : HubCall) :
    (call.act h).Holds (cs ++ [call]) where
  filled := filled_act hholds.filled call
  settled := settled_act hs hholds.settled call
  last job e hlatest := by
    rw [last?_append_singleton]
    by_cases hforget : call = .forget job
    · subst hforget
      have hnone : (h.forget job).2.latest? job = some e := hlatest
      rw [latest?_forget] at hnone
      cases hnone
    · rw [latest?_act hs hr hforget] at hlatest
      have hbefore := (Option.filter_eq_some_iff.mp hlatest).1
      cases hcall : call.published? job with
      | none =>
        rw [hcall, Option.none_or] at hbefore
        exact hholds.last job e hbefore
      | some e' =>
        rw [hcall, Option.some_or] at hbefore
        exact hbefore
  kept job e hlast hgoing hkept := by
    have hforget : call ≠ .forget job := by
      rintro rfl
      exact hkept ⟨cs, [], rfl, rfl⟩
    -- what is going on is not dropped with any settlement
    rw [latest?_act hs hr hforget, Option.filter_eq_some_iff]
    refine ⟨?_, by simp [hgoing]⟩
    rw [last?_append_singleton] at hlast
    cases hcall : call.published? job with
    | none =>
      rw [hcall, Option.none_or] at hlast
      rw [Option.none_or]
      exact hholds.kept job e hlast hgoing (not_forgotten_of_append hkept hcall).1
    | some e' =>
      rw [hcall, Option.some_or] at hlast
      rw [Option.some_or]
      exact hlast

private theorem holds_calls (capacity : Nat) (cs : List HubCall) :
    ((empty capacity).calls cs).Holds cs := by
  induction cs using List.reverseRecOn with
  | nil =>
    refine ⟨EventCache.filled_empty capacity, EventCache.settled_empty capacity, ?_, nofun⟩
    intro job e hlatest
    simp [calls, latest?, empty, EventCache.latest?, EventCache.empty] at hlatest
  | append_singleton cs call ih =>
    have hr := remembers_calls (h := empty capacity) (EventCache.remembers_empty capacity) cs
    rw [calls_append]
    exact ih.act ((sound_empty capacity).calls cs) hr call

/-! ## How much it holds -/

/-- A job with a slot has a latest event. -/
private theorem Holds.exists_latest? (hholds : h.Holds cs) (hjob : job ∈ h.cache.slots.keys) :
    ∃ e, h.latest? job = some e := by
  obtain ⟨slot, hslot⟩ := Option.isSome_iff_exists.mp
    (Std.TreeMap.mem_iff_isSome_getElem?.mp (Std.TreeMap.mem_keys.mp hjob))
  obtain ⟨e, hcell⟩ := hholds.filled job slot hslot
  exact ⟨e, Option.bind_eq_some_iff.mpr ⟨slot, hslot, hcell⟩⟩

/-- There are no more final events than settlements remembered. -/
private theorem Holds.length_cachedFinal_le (hholds : h.Holds cs) :
    h.cachedFinal.length ≤ h.cache.settled.length := by
  have hnodup : h.cachedFinal.Nodup := (nodup_keys h.cache.slots).filter _
  have hsubset : h.cachedFinal ⊆ h.cache.settled := by
    intro job hjob
    obtain ⟨hkey, hfinal⟩ := List.mem_filter.mp hjob
    obtain ⟨e, hlatest⟩ := hholds.exists_latest? hkey
    rw [hlatest, Option.any_some] at hfinal
    simpa using hholds.settled job e hlatest hfinal
  exact (List.subperm_of_subset hnodup hsubset).length_le

/-- What is cached is final or going on. -/
private theorem Holds.cachedJobs_le (hholds : h.Holds cs) :
    h.cachedJobs ≤ h.cachedFinal.length + (ongoing cs).length := by
  have hsize : h.cachedJobs = h.cache.slots.keys.length := Std.TreeMap.length_keys.symm
  have hgoing : (h.cache.slots.keys.filter fun job =>
      !(h.latest? job).any (·.status.isTerminal)) ⊆ ongoing cs := by
    intro job hjob
    obtain ⟨hkey, hnot⟩ := List.mem_filter.mp hjob
    obtain ⟨e, hlatest⟩ := hholds.exists_latest? hkey
    have hlast := hholds.last job e hlatest
    rw [hlatest, Option.any_some] at hnot
    refine List.mem_filter.mpr ⟨List.mem_dedup.mpr (mem_publishers_of_last? hlast), ?_⟩
    rw [hlast, Option.any_some]
    exact hnot
  have hle := (List.subperm_of_subset ((nodup_keys h.cache.slots).filter _) hgoing).length_le
  have hsplit := List.length_eq_length_filter_add (l := h.cache.slots.keys)
    fun job => (h.latest? job).any (·.status.isTerminal)
  have hfinal : h.cachedFinal.length = (h.cache.slots.keys.filter fun job =>
    (h.latest? job).any (·.status.isTerminal)).length := rfl
  omega

/-- What the cache holds after some calls. -/
structure Bounded (capacity : Nat) (cs : List HubCall) : Prop where
  /-- Final events are kept for no more jobs than the capacity allows. -/
  final : ((empty capacity).calls cs).cachedFinal.length ≤ capacity
  /-- Every slot holds the last event published for its job. -/
  latest : ∀ job slot, ((empty capacity).calls cs).cache.slots[job]? = some slot →
    ∃ e, ((empty capacity).calls cs).cache.cells[slot]? = some e ∧ last? job cs = some e
  /-- A job that is going on and has not been forgotten has a slot. -/
  kept : ∀ job e, last? job cs = some e → e.status.isTerminal = false → ¬Forgotten job cs →
    ((empty capacity).calls cs).latest? job = some e
  /-- Whoever joins whichever job, the cache stays as it is. -/
  joins : ∀ c job, (((empty capacity).calls cs).join c job).2.cache =
    ((empty capacity).calls cs).cache
  /-- There are slots for jobs that are going on, and as many others as the capacity allows. -/
  size : ((empty capacity).calls cs).cachedJobs ≤ capacity + (ongoing cs).length

/-- After any calls the cache holds last events only: those of all jobs that are going on and have
not been forgotten, and no more final ones than the capacity allows. -/
theorem bounded_calls (capacity : Nat) (cs : List HubCall) : Bounded capacity cs := by
  have hholds := holds_calls capacity cs
  have hr := remembers_calls (h := empty capacity) (EventCache.remembers_empty capacity) cs
  have hwindow : ((empty capacity).calls cs).cache.settled.length ≤ capacity := by
    rw [hr.window, List.length_drop]
    omega
  have hfinal := hholds.length_cachedFinal_le
  have hsize := hholds.cachedJobs_le
  refine ⟨by omega, fun job slot hslot => ?_, hholds.kept, fun c job => cache_join _ c job,
    by omega⟩
  obtain ⟨e, hcell⟩ := hholds.filled job slot hslot
  have hlatest : ((empty capacity).calls cs).latest? job = some e :=
    Option.bind_eq_some_iff.mpr ⟨slot, hslot, hcell⟩
  exact ⟨e, hcell, hholds.last job e hlatest⟩

end Hub

end JobRunner
