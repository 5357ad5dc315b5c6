import Mathlib.Data.List.Perm.Basic
import JobRunner.Proofs.Effects

/-!
# The custody of jobs

- `Plant.Orderly`: every job is in at most one pair of hands or in at most one lane, the lanes hold
  runnable jobs only, and everyone at work is informed.
- `Plant.Orderly.step`: whatever happens next, a plant stays orderly.
- `Plant.orderly_run`: every plant that began empty is orderly.
- `Plant.store_run`: its store is what its journal says.
-/

namespace JobRunner

/-! ## What a transfer does to custody -/

namespace Actor

theorem holds?_congr {x x' : Actor} (carries : x'.carries? = x.carries?)
    (attempt : x'.attempt? = x.attempt?) : x'.holds? = x.holds? := by
  unfold holds?
  rw [carries, attempt]

/-- An attempt that goes on keeps its job in the same hands, as long as it has it. -/
theorem holds?_of_move {x x' : Actor} {a a' : Attempt} {es : List Entry} {h : Attempt.Handover}
    (move : Attempt.Move a a' es h) (attempt : x.attempt? = some a)
    (carries' : x'.carries? = none)
    (attempt' : x'.attempt? = if a'.owns then some a' else none) :
    x'.holds? = if a'.owns then x.holds? else none := by
  by_cases howns : a'.owns = true
  · rw [if_pos howns] at attempt' ⊢
    rw [holds?_of_attempt? attempt', holds?_of_attempt? attempt, move.job_id]
  · rw [if_neg howns] at attempt' ⊢
    rw [holds?_of_carries? attempt', carries']

namespace Transfer

variable {s s' : Service} {x x' : Actor} {added : Option RetryTimer} {es : List Entry}

/-- Whatever happens in a step happens to the job in the hands of the activity, or is the arrival of
a new one. -/
theorem touched (tr : Transfer s s' x x' added es) (hi : x.Informed s.store) :
    ∀ e ∈ es, x.holds? = some e.jobId ∨
      (s.store.job? e.jobId = none ∧ ∃ job, e = .inserted job) := by
  intro e he
  cases tr with
  | insert job isNew fresh =>
    rw [List.mem_singleton] at he
    exact .inr ⟨he ▸ fresh, job, he⟩
  | move move attempt =>
    obtain ⟨record, -, hfits⟩ := hi.attempt attempt
    rw [move.entry_jobId hfits e he]
    exact .inl (holds?_of_attempt? attempt)
  | quiet | push | pop | start => exact absurd he List.not_mem_nil

/-- An activity has a job from its own hands, from a lane or from outside. -/
theorem held (tr : Transfer s s' x x' added es) {id : JobId} (h : x'.holds? = some id) :
    x.holds? = some id ∨ (∃ t, s.queue.Waits t id) ∨ s.store.job? id = none := by
  cases tr with
  | quiet carries attempt => exact .inl (holds?_congr carries attempt ▸ h)
  | insert job isNew fresh empty carries attempt =>
    rw [holds?_of_carries? attempt, carries] at h
    cases h
    exact .inr (.inr fresh)
  | push job stored runnable carries attempt empty =>
    rw [empty] at h
    cases h
  | pop t₀ id₀ empty carries attempt waited =>
    rw [holds?_of_carries? attempt, carries] at h
    cases h
    exact .inr (.inl ⟨t₀, waited⟩)
  | start job b stored runnable carries attempt attempt' =>
    rw [holds?_of_attempt? attempt'] at h
    exact .inl ((holds?_of_carries? attempt).trans (carries.trans h))
  | move move attempt carries' attempt' =>
    rw [holds?_of_move move attempt carries' attempt'] at h
    split at h
    · exact .inl h
    · cases h

/-- A timer has its job from the activity that began it, which has it no more. -/
theorem timed {r : RetryTimer} (tr : Transfer s s' x x' (some r) es) {id : JobId}
    (h : (timer r).holds? = some id) : x.holds? = some id ∧ x'.holds? = none := by
  generalize hadded : some r = added at tr
  cases tr with
  | @move a a' es h' move attempt carries' attempt' =>
    cases h' with
    | none | lane => cases hadded
    | timer due =>
      cases hadded
      obtain ⟨-, howns⟩ := move.of_handover (by simp)
      refine ⟨(holds?_of_attempt? attempt).trans h, ?_⟩
      rw [howns] at attempt'
      exact (holds?_of_carries? attempt').trans carries'
  | quiet | insert | push | pop | start => cases hadded

/-- A lane has a job from before, or from the activity, which brings it in runnable. -/
theorem queued (tr : Transfer s s' x x' added es) (hi : x.Informed s.store) {t : String}
    {id : JobId} (h : s'.queue.Waits t id) :
    s.queue.Waits t id ∨ (x.holds? = some id ∧ es = [] ∧ ∃ job, s.store.job? id = some job ∧
      job.jobType = t ∧ job.status.isRunnable = true) := by
  cases tr with
  | quiet _ _ waits | insert _ _ _ _ _ _ waits | start _ _ _ _ _ _ _ waits =>
    exact .inl ((waits t id).mp h)
  | push job stored runnable carries attempt empty waits =>
    rcases (waits t id).mp h with hold | ⟨rfl, rfl⟩
    · exact .inl hold
    · exact .inr ⟨(holds?_of_carries? attempt).trans carries, rfl, job, stored, rfl, runnable⟩
  | pop t₀ id₀ empty carries attempt waited waits => exact .inl ((waits t id).mp h).1
  | move move attempt _ _ waits =>
    rcases (waits t id).mp h with hold | ⟨rfl, rfl, rfl⟩
    · exact .inl hold
    · obtain ⟨record, hrecord, hfits⟩ := hi.attempt attempt
      obtain ⟨hrun, htype⟩ := move.runnable_of_handover hfits (by simp)
      obtain ⟨rfl, -⟩ := move.of_handover (by simp)
      exact .inr ⟨holds?_of_attempt? attempt, rfl, record, hrecord, htype, hrun⟩

/-- A job that waits in a lane after the step is not in the hands of the activity. -/
theorem unheld (tr : Transfer s s' x x' added es) (hw : s.Posted)
    (hx : ∀ t id, s.queue.Waits t id → x.holds? ≠ some id) {t : String} {id : JobId}
    (h : s'.queue.Waits t id) : x'.holds? ≠ some id := by
  intro hheld
  cases tr with
  | quiet carries attempt waits =>
    exact hx t id ((waits t id).mp h) (holds?_congr carries attempt ▸ hheld)
  | insert job isNew fresh empty carries attempt waits =>
    rw [holds?_of_carries? attempt, carries] at hheld
    cases hheld
    obtain ⟨job', hjob', -⟩ := hw t job.id ((waits t job.id).mp h)
    rw [fresh] at hjob'
    cases hjob'
  | push job stored runnable carries attempt empty waits =>
    rw [empty] at hheld
    cases hheld
  | pop t₀ id₀ empty carries attempt waited waits =>
    rw [holds?_of_carries? attempt, carries] at hheld
    cases hheld
    obtain ⟨hwaits, hne⟩ := (waits t id).mp h
    -- it would wait in two lanes, but both have the type of its record
    obtain ⟨job, hjob, htype, -⟩ := hw t id hwaits
    obtain ⟨job₀, hjob₀, htype₀, -⟩ := hw t₀ id waited
    rw [hjob] at hjob₀
    cases hjob₀
    exact hne ⟨htype.symm.trans htype₀, rfl⟩
  | start job b stored runnable carries attempt attempt' waits =>
    rw [holds?_of_attempt? attempt'] at hheld
    cases hheld
    exact hx t job.id ((waits t job.id).mp h) ((holds?_of_carries? attempt).trans carries)
  | move move attempt carries' attempt' waits =>
    rw [holds?_of_move move attempt carries' attempt'] at hheld
    split at hheld
    · next howns =>
      rcases (waits t id).mp h with hold | ⟨rfl, -, -⟩
      · exact hx t id hold hheld
      · obtain ⟨-, hgone⟩ := move.of_handover (by simp)
        rw [hgone] at howns
        cases howns
    · cases hheld

/-- A job that waits in a lane after the step is in the hands of no timer that begins. -/
theorem untimed {r : RetryTimer} (tr : Transfer s s' x x' (some r) es)
    (hx : ∀ t id, s.queue.Waits t id → x.holds? ≠ some id) {t : String} {id : JobId}
    (h : s'.queue.Waits t id) : (timer r).holds? ≠ some id := by
  intro hheld
  obtain ⟨hx', -⟩ := tr.timed hheld
  refine hx t id ?_ hx'
  generalize hadded : some r = added at tr
  cases tr with
  | @move a a' es h' move attempt carries' attempt' waits =>
    cases h' with
    | none | lane => cases hadded
    | timer due =>
      rcases (waits t id).mp h with hold | ⟨hlane, -⟩
      · exact hold
      · cases hlane
  | quiet | insert | push | pop | start => cases hadded

end Transfer

/-- No job is in the hands of both. -/
def Apart (x y : Actor) : Prop := ∀ id, x.holds? = some id → y.holds? ≠ some id

theorem Apart.symm {x y : Actor} (h : Apart x y) : Apart y x :=
  fun id hy hx => h id hx hy

instance : Std.Symm Apart := ⟨fun _ _ => Apart.symm⟩

theorem apart_of_holds?_eq_none {x : Actor} (h : x.holds? = none) (y : Actor) : Apart x y := by
  intro id hx
  rw [h] at hx
  cases hx

end Actor

/-! ## Orderly plants -/

namespace Plant

/-- Nothing is in two hands, and what is known about jobs is true. -/
structure Orderly (p : Plant) : Prop where
  keyed : p.service.store.Keyed
  sound : p.service.queue.Sound
  posted : p.service.Posted
  apart : p.actors.Pairwise Actor.Apart
  unheld : ∀ t id, p.service.queue.Waits t id → ∀ x ∈ p.actors, x.holds? ≠ some id
  informed : ∀ x ∈ p.actors, x.Informed p.service.store
  /-- Nothing has happened to a job that is not stored. -/
  blank : ∀ id, p.record? id = none → p.outcome? id = none ∧ p.history id = []

variable {p : Plant}

theorem orderly_new (settings : ServiceSettings) : (new settings).Orderly where
  keyed := Store.keyed_empty
  sound := Queue.sound_ofBackend settings.queue .empty
  posted t id h := absurd h (Queue.not_waits_ofBackend settings.queue .empty t id)
  apart := .nil
  unheld t id h := absurd h (Queue.not_waits_ofBackend settings.queue .empty t id)
  informed _ hx := absurd hx List.not_mem_nil
  blank id _ := ⟨Store.outcome?_empty id, rfl⟩

/-- Apart from order, an activity that takes a step is replaced, and perhaps a timer is added. -/
theorem exists_others {i : Nat} {x : Actor} (hx : p.actors[i]? = some x) (x' : Actor)
    (service : Service) (added : Option RetryTimer) (es : List Entry) :
    ∃ others, p.actors.Perm (x :: others) ∧
      (p.replace i x' service added es).actors.Perm
        (x' :: ((added.map Actor.timer).toList ++ others)) := by
  obtain ⟨hi, rfl⟩ := List.getElem?_eq_some_iff.mp hx
  refine ⟨p.actors.eraseIdx i, (List.getElem_cons_eraseIdx_perm hi).symm, ?_⟩
  have hset : (p.actors.set i x').Perm (x' :: p.actors.eraseIdx i) :=
    List.set_perm_cons_eraseIdx hi x'
  exact (hset.append_right _).trans ((List.perm_append_comm).cons x')

/-- What happened to a job in a step is what its entries say. -/
theorem history_replace (p : Plant) (i : Nat) (x : Actor) (service : Service)
    (added : Option RetryTimer) (es : List Entry) (id : JobId) :
    (p.replace i x service added es).history id = p.history id ++ es.filter (·.jobId = id) :=
  List.filter_append ..

namespace Orderly

/-! ### One step of one activity

`x` takes the step and becomes `x'`, and the others look on. -/

section

variable {x x' : Actor} {service : Service} {added : Option RetryTimer} {es : List Entry}
  {others : List Actor}

/-- A step of an activity concerns no job in the hands of another. -/
private theorem others_untouched (h : p.Orderly) (hperm : p.actors.Perm (x :: others))
    (effect : Actor.Effect x p.service x' service added es) {y : Actor} (hy : y ∈ others)
    {id : JobId} (hheld : y.holds? = some id) :
    x.holds? ≠ some id ∧ x'.holds? ≠ some id ∧ ∀ e ∈ es, e.jobId ≠ id := by
  have hapart := h.apart.perm hperm Actor.Apart.symm
  rw [List.pairwise_cons] at hapart
  have hne : x.holds? ≠ some id := fun hx => hapart.1 y hy id hx hheld
  have hymem : y ∈ p.actors := hperm.mem_iff.mpr (List.mem_cons_of_mem x hy)
  have hxmem : x ∈ p.actors := hperm.mem_iff.mpr List.mem_cons_self
  have hstored := (h.informed y hymem).stored hheld
  refine ⟨hne, fun hx' => ?_, fun e he hid => ?_⟩
  -- a job in other hands is neither in the activity's own, nor in a lane, nor new
  · rcases effect.transfer.held hx' with hx | ⟨t, hwaits⟩ | hfresh
    · exact hne hx
    · exact h.unheld t id hwaits y hymem hheld
    · exact hstored hfresh
  · rcases effect.transfer.touched (h.informed x hxmem) e he with hx | ⟨hfresh, -⟩
    · exact hne (hid ▸ hx)
    · exact hstored (hid ▸ hfresh)

/-- The record of a job that waits in a lane is not written. -/
private theorem waiting_untouched (h : p.Orderly) (hx : x ∈ p.actors)
    (effect : Actor.Effect x p.service x' service added es) {t : String} {id : JobId}
    (hwaits : p.service.queue.Waits t id) :
    service.store.job? id = p.service.store.job? id := by
  rw [effect.store]
  refine (Entry.foldl_onStore_of_ne es _ id fun e he hid => ?_).1
  rcases effect.transfer.touched (h.informed x hx) e he with hheld | ⟨hfresh, -⟩
  · exact h.unheld t id hwaits x hx (hid ▸ hheld)
  · obtain ⟨job, hjob, -⟩ := h.posted t id hwaits
    rw [← hid, hfresh] at hjob
    cases hjob

private theorem posted_after (h : p.Orderly) (hx : x ∈ p.actors)
    (effect : Actor.Effect x p.service x' service added es) : service.Posted := by
  intro t id hwaits
  rcases effect.transfer.queued (h.informed x hx) hwaits with hold | ⟨-, rfl, hjob⟩
  · rw [h.waiting_untouched hx effect hold]
    exact h.posted t id hold
  · rw [effect.store]
    exact hjob

private theorem apart_after (h : p.Orderly) (hperm : p.actors.Perm (x :: others))
    (effect : Actor.Effect x p.service x' service added es) :
    (x' :: ((added.map Actor.timer).toList ++ others)).Pairwise Actor.Apart := by
  have hothers := h.apart.perm hperm Actor.Apart.symm
  rw [List.pairwise_cons] at hothers
  have hx' : ∀ y ∈ others, Actor.Apart x' y :=
    fun y hy id hheld' hheld => (h.others_untouched hperm effect hy hheld).2.1 hheld'
  cases added with
  | none => exact List.pairwise_cons.mpr ⟨hx', hothers.2⟩
  | some r =>
    have hr : ∀ y ∈ others, Actor.Apart (.timer r) y := fun y hy id hheld' hheld =>
      (h.others_untouched hperm effect hy hheld).1 (effect.transfer.timed hheld').1
    have hxr : Actor.Apart (.timer r) x' := by
      intro id hheld'
      rw [(effect.transfer.timed hheld').2]
      exact Option.some_ne_none id ∘ Eq.symm
    refine List.pairwise_cons.mpr ⟨fun y hy => ?_, List.pairwise_cons.mpr ⟨hr, hothers.2⟩⟩
    rcases List.mem_cons.mp hy with rfl | hy
    · exact hxr.symm
    · exact hx' y hy

private theorem unheld_after (h : p.Orderly) (hperm : p.actors.Perm (x :: others))
    (effect : Actor.Effect x p.service x' service added es) {t : String} {id : JobId}
    (hwaits : service.queue.Waits t id) :
    ∀ y ∈ x' :: ((added.map Actor.timer).toList ++ others), y.holds? ≠ some id := by
  have hx : x ∈ p.actors := hperm.mem_iff.mpr List.mem_cons_self
  have hunheld := fun t id hw => h.unheld t id hw x hx
  intro y hy
  rcases List.mem_cons.mp hy with rfl | hy
  · exact effect.transfer.unheld h.posted hunheld hwaits
  · rcases List.mem_append.mp hy with hy | hy
    · cases added with
      | none => cases hy
      | some r =>
        cases List.mem_singleton.mp hy
        exact effect.transfer.untimed hunheld hwaits
    · intro hheld
      rcases effect.transfer.queued (h.informed x hx) hwaits with hold | ⟨hheld', -⟩
      · exact h.unheld t id hold y (hperm.mem_iff.mpr (List.mem_cons_of_mem x hy)) hheld
      · exact (h.others_untouched hperm effect hy hheld).1 hheld'

private theorem informed_after (h : p.Orderly) (hperm : p.actors.Perm (x :: others))
    (effect : Actor.Effect x p.service x' service added es) :
    ∀ y ∈ x' :: ((added.map Actor.timer).toList ++ others), y.Informed service.store := by
  intro y hy
  rcases List.mem_cons.mp hy with rfl | hy
  · exact effect.informed
  · rcases List.mem_append.mp hy with hy | hy
    · cases added with
      | none => cases hy
      | some r =>
        cases List.mem_singleton.mp hy
        exact effect.timer r rfl
    · have hymem : y ∈ p.actors := hperm.mem_iff.mpr (List.mem_cons_of_mem x hy)
      refine (h.informed y hymem).frame fun id hheld => ?_
      rw [effect.store]
      exact Entry.foldl_onStore_of_ne es _ id (h.others_untouched hperm effect hy hheld).2.2

/-- A job that is not stored after a step was not stored before, and nothing happened to it. -/
private theorem fresh_of_after (h : p.Orderly) (hx : x ∈ p.actors)
    (effect : Actor.Effect x p.service x' service added es) {id : JobId}
    (hnone : service.store.job? id = none) :
    p.record? id = none ∧ ∀ e ∈ es, e.jobId ≠ id := by
  rw [effect.store] at hnone
  have hfresh : p.record? id = none := by
    by_contra hstored
    exact Entry.stored_foldl_onStore es (.inl hstored) hnone
  refine ⟨hfresh, fun e he hid => ?_⟩
  rcases effect.transfer.touched (h.informed x hx) e he with hheld | ⟨-, job, rfl⟩
  · exact (h.informed x hx).stored hheld (hid ▸ hfresh)
  · exact Entry.stored_foldl_onStore es (.inr ⟨job, he, hid⟩) hnone

end

/-- A plant stays orderly when an activity takes a step. -/
theorem replace (h : p.Orderly) {i : Nat} {x x' : Actor} (hx : p.actors[i]? = some x)
    {service : Service} {added : Option RetryTimer} {es : List Entry}
    (effect : Actor.Effect x p.service x' service added es) :
    (p.replace i x' service added es).Orderly := by
  have hmem : x ∈ p.actors := List.mem_of_getElem? hx
  -- being apart is symmetric, so the order in which the activities stand does not matter
  obtain ⟨others, hperm, hperm'⟩ := exists_others hx x' service added es
  refine ⟨?_, effect.sound, h.posted_after hmem effect, ?_, fun t id hwaits y hy => ?_,
    fun y hy => ?_, fun id hnone => ?_⟩
  · show service.store.Keyed
    rw [effect.store]
    exact Entry.keyed_foldl_onStore es h.keyed
  · exact (h.apart_after hperm effect).perm hperm'.symm Actor.Apart.symm
  · exact h.unheld_after hperm effect hwaits y (hperm'.mem_iff.mp hy)
  · exact h.informed_after hperm effect y (hperm'.mem_iff.mp hy)
  · obtain ⟨hfresh, hes⟩ := h.fresh_of_after hmem effect hnone
    obtain ⟨houtcome, hhistory⟩ := h.blank id hfresh
    refine ⟨?_, ?_⟩
    · show service.store.outcome? id = none
      rw [effect.store, (Entry.foldl_onStore_of_ne es _ id hes).2]
      exact houtcome
    · rw [history_replace, hhistory, List.nil_append, List.filter_eq_nil_iff]
      exact fun e he => by simpa using hes e he

/-! ### All that can happen -/

/-- A plant stays orderly when the plan of the store or the hub changes. -/
theorem withService (h : p.Orderly) {service : Service} (store : service.store = p.service.store)
    (lanes : service.queue.lanes = p.service.queue.lanes) : { p with service }.Orderly := by
  have hlane : ∀ t, service.queue.lane t = p.service.queue.lane t := by
    intro t
    unfold Queue.lane
    rw [lanes]
  have hwaits : ∀ t id, service.queue.Waits t id → p.service.queue.Waits t id := by
    intro t id hw
    unfold Queue.Waits at hw
    rw [hlane] at hw
    exact hw
  refine ⟨?_, fun t => ?_, fun t id hw => ?_, h.apart, fun t id hw => ?_, ?_, fun id => ?_⟩
  · show service.store.Keyed
    rw [store]
    exact h.keyed
  · show (service.queue.lane t).Sound
    rw [hlane]
    exact h.sound t
  · show ∃ job, service.store.job? id = some job ∧ _
    rw [store]
    exact h.posted t id (hwaits t id hw)
  · exact h.unheld t id (hwaits t id hw)
  · show ∀ x ∈ p.actors, x.Informed service.store
    rw [store]
    exact h.informed
  · show service.store.job? id = none → service.store.outcome? id = none ∧ _
    rw [store]
    exact h.blank id

/-- A plant stays orderly when somebody comes with empty hands. -/
theorem join (h : p.Orderly) {x : Actor} (empty : x.holds? = none)
    (informed : x.Informed p.service.store) : { p with actors := p.actors ++ [x] }.Orderly where
  keyed := h.keyed
  sound := h.sound
  posted := h.posted
  apart := by
    rw [List.pairwise_append]
    refine ⟨h.apart, List.pairwise_singleton _ x, fun y hy z hz => ?_⟩
    rw [List.mem_singleton.mp hz]
    exact (Actor.apart_of_holds?_eq_none empty y).symm
  unheld t id hwaits y hy := by
    rcases List.mem_append.mp hy with hy | hy
    · exact h.unheld t id hwaits y hy
    · rw [List.mem_singleton.mp hy, empty]
      exact Option.some_ne_none id ∘ Eq.symm
  informed y hy := by
    rcases List.mem_append.mp hy with hy | hy
    · exact h.informed y hy
    · rw [List.mem_singleton.mp hy]
      exact informed
  blank := h.blank

/-- The step of an activity has the effect that its entries say. -/
theorem advance_effect (h : p.Orderly) {i : Nat} {x : Actor} (hx : p.actors[i]? = some x)
    (t : Tick) :
    Actor.Effect x p.service (x.step p.service t).1 (x.step p.service t).2.1
      (x.step p.service t).2.2 (x.entries p.service t) :=
  Actor.step_effect h.sound h.keyed h.posted x (h.informed x (List.mem_of_getElem? hx)) t

/-- The end of a handler has the effect that its entries say. -/
theorem report_effect (h : p.Orderly) {i : Nat} {x : Actor} (hx : p.actors[i]? = some x)
    (clock : Instant) (r : Except Failure Json) :
    Actor.Effect x p.service (x.report clock r) p.service none (x.reportEntries r) :=
  Actor.report_effect h.sound x (h.informed x (List.mem_of_getElem? hx)) clock r

/-- A plant stays orderly, whatever happens. -/
theorem step (h : p.Orderly) (act : Action) : (p.step act).Orderly := by
  cases act with
  | enqueue id now request countable => exact h.join rfl countable
  | hire jobType backoff => exact h.join rfl trivial
  | advance i t =>
    simp only [Plant.step]
    split
    · next x hx => exact h.replace hx (h.advance_effect hx t)
    · exact h
  | report i clock r =>
    simp only [Plant.step]
    split
    · next x hx => exact h.replace hx (h.report_effect hx clock r)
    · exact h
  | plan call failures => exact h.withService rfl rfl
  | visit visit => exact h.withService rfl rfl

/-- A plant stays orderly in every run. -/
theorem run (h : p.Orderly) (actions : List Action) : (p.run actions).Orderly := by
  -- on the actions, for all plants
  induction actions generalizing p with
  | nil => exact h
  | cons act actions ih => exact ih (h.step act)

end Orderly

/-- Every plant that began empty is orderly. -/
theorem orderly_run (settings : ServiceSettings) (actions : List Action) :
    ((new settings).run actions).Orderly :=
  (orderly_new settings).run actions

/-- Whatever happens to the store is written in the journal, and so is whatever is published: the
hub changes by nothing else, unless a session uses it. -/
theorem Orderly.journal_step (h : p.Orderly) (act : Action) :
    ∃ es, (p.step act).journal = p.journal ++ es ∧
      (p.step act).service.store = es.foldl Entry.onStore p.service.store ∧
      ((∀ visit, act ≠ .visit visit) →
        (p.step act).service.hub = es.foldl Entry.onHub p.service.hub) := by
  have nothing : p.journal = p.journal ++ [] := (List.append_nil _).symm
  cases act with
  | enqueue | hire | plan => exact ⟨[], nothing, rfl, fun _ => rfl⟩
  | visit visit => exact ⟨[], nothing, rfl, fun other => absurd rfl (other visit)⟩
  | advance i t =>
    simp only [Plant.step]
    split
    · next x hx =>
      have heffect := h.advance_effect hx t
      exact ⟨_, rfl, heffect.store, fun _ => heffect.hub⟩
    · exact ⟨[], nothing, rfl, fun _ => rfl⟩
  | report i clock r =>
    simp only [Plant.step]
    split
    · next x hx =>
      have heffect := h.report_effect hx clock r
      exact ⟨_, rfl, heffect.store, fun _ => heffect.hub⟩
    · exact ⟨[], nothing, rfl, fun _ => rfl⟩

/-- The journal of a run says how the store has come about. -/
theorem store_run (settings : ServiceSettings) (actions : List Action) :
    ((new settings).run actions).service.store =
      ((new settings).run actions).journal.foldl Entry.onStore .empty := by
  -- from any orderly plant whose store is what its journal says
  have hrun : ∀ p : Plant, p.Orderly → p.service.store = p.journal.foldl Entry.onStore .empty →
      (p.run actions).service.store = (p.run actions).journal.foldl Entry.onStore .empty := by
    induction actions with
    | nil => exact fun p _ hstore => hstore
    | cons act actions ih =>
      intro p h hstore
      refine ih (p.step act) (h.step act) ?_
      obtain ⟨es, hjournal, hes, -⟩ := h.journal_step act
      rw [hes, hjournal, List.foldl_append, hstore]
  exact hrun (new settings) (orderly_new settings) rfl

end Plant

end JobRunner
