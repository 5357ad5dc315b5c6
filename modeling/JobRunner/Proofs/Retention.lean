import JobRunner.Proofs.HubCalls
import Mathlib.Data.List.Dedup

/-!
# How long the last event of a job is kept

The cache remembers settlements rather than jobs. A job that settles several times stands among them
several times, and the first of its settlements to be dropped takes its event away.

- `Hub.settlements`: the jobs that calls settle.
- `EventCache.Remembers`: the settlements remembered are the last ones, as many as the capacity
  allows.
- `Hub.latest_of_final`: the final event of a job is kept until a settlement of the job is
  dropped, be it an earlier one.
- `Hub.not_latest_of_few_settlers`: so it can be dropped although few other jobs have settled.
-/

namespace JobRunner

/-! ## Settlements -/

namespace EventCache

variable {c : EventCache} {job : JobId} {capacity : Nat} {settled : List JobId}

/-- The settlements dropped while those in `new` follow those in `old`. -/
def droppedBy (capacity : Nat) (old new : List JobId) : List JobId :=
  ((old ++ new).take ((old ++ new).length - capacity)).drop (old.length - capacity)

@[simp] theorem droppedBy_nil : droppedBy capacity settled [] = [] := by
  rw [droppedBy, List.append_nil]
  exact List.drop_eq_nil_of_le (List.length_take_le _ _)

theorem droppedBy_append (old new new' : List JobId) :
    droppedBy capacity old (new ++ new') =
      droppedBy capacity old new ++ droppedBy capacity (old ++ new) new' := by
  unfold droppedBy
  rw [← List.append_assoc]
  have hold : old.length ≤ (old ++ new).length := by simp
  have hnew : (old ++ new).length ≤ (old ++ new ++ new').length := by simp
  generalize old ++ new = first at *
  generalize hall : first ++ new' = all at *
  -- what `old ++ new` has dropped is a beginning of what has been dropped in the end
  have hfirst : first.take (first.length - capacity) =
      (all.take (all.length - capacity)).take (first.length - capacity) := by
    rw [List.take_take, Nat.min_eq_left (by omega), ← hall,
      List.take_append_of_le_length (Nat.sub_le _ _)]
  have hlength : old.length - capacity ≤
      ((all.take (all.length - capacity)).take (first.length - capacity)).length := by
    rw [List.length_take, List.length_take]
    omega
  rw [hfirst, ← List.drop_append_of_le_length hlength, List.take_append_drop]

/-- The settlement of a job that is not among those remembered is dropped once the capacity is used
up by later ones. -/
theorem mem_droppedBy_cons {old new : List JobId} (hold : job ∉ old.drop (old.length - capacity)) :
    job ∈ droppedBy capacity old (job :: new) ↔ capacity ≤ new.length := by
  have hmem : ∀ n, job ∈ (job :: new).take n ↔ 0 < n := by
    intro n
    cases n with
    | zero => simp
    | succ n => simp
  unfold droppedBy
  rw [List.drop_take, List.drop_append_of_le_length (Nat.sub_le _ _), List.take_append,
    List.mem_append, or_iff_right fun h => hold (List.mem_of_mem_take h), hmem]
  simp only [List.length_append, List.length_cons, List.length_drop]
  omega

/-- The last settlements are remembered, as many as the capacity allows. -/
structure Remembers (c : EventCache) (capacity : Nat) (settled : List JobId) : Prop where
  size : c.capacity = capacity
  window : c.settled = settled.drop (settled.length - capacity)

theorem remembers_empty (capacity : Nat) : (empty capacity).Remembers capacity [] :=
  ⟨rfl, (List.drop_nil).symm⟩

namespace Remembers

/-- What is trimmed is what leaves the window. -/
private theorem trimmed (hr : c.Remembers capacity settled) (job : JobId) :
    (c.settled ++ [job]).take ((c.settled ++ [job]).length - c.capacity) =
      droppedBy capacity settled [job] := by
  have happend : c.settled ++ [job] = (settled ++ [job]).drop (settled.length - capacity) := by
    rw [hr.window, List.drop_append_of_le_length (Nat.sub_le _ _)]
  rw [droppedBy, List.drop_take, hr.size, happend, List.length_drop]
  congr 1
  rw [List.length_append]
  omega

theorem settle (hr : c.Remembers capacity settled) (job : JobId) :
    (c.settle job).Remembers capacity (settled ++ [job]) := by
  obtain ⟨-, -, hsize, hwindow⟩ := trim_keeps { c with settled := c.settled ++ [job] }
    ((c.settled ++ [job]).length - c.capacity)
  refine ⟨hsize.trans hr.size, hwindow.trans ?_⟩
  dsimp only
  rw [hr.window, hr.size, ← List.drop_append_of_le_length (Nat.sub_le _ _), List.drop_drop]
  congr 1
  rw [List.length_drop, List.length_append]
  omega

/-- An event is stored without a settlement. -/
theorem stored (hr : c.Remembers capacity settled) (e : Event) :
    ((c.takeSlot e.jobId).2.store (c.takeSlot e.jobId).1 e).Remembers capacity settled := by
  obtain ⟨hwindow, hsize⟩ := c.takeSlot_keeps e.jobId
  exact ⟨hsize.trans hr.size, hwindow.trans hr.window⟩

/-- A job that leaves the window loses its event if that is final. -/
theorem latest?_settle (hr : c.Remembers capacity settled) (job j : JobId) :
    (c.settle job).latest? j = (c.latest? j).filter fun e =>
      ¬(j ∈ droppedBy capacity settled [job] ∧ e.status.isTerminal = true) := by
  rw [← hr.trimmed job]
  exact latest?_trim { c with settled := c.settled ++ [job] } _ j

end Remembers

end EventCache

/-! ## Calls -/

namespace Hub

open EventCache (droppedBy droppedBy_nil droppedBy_append)

variable {h : Hub} {call : HubCall} {cs : List HubCall} {job : JobId} {e : Event} {capacity : Nat}
  {settled : List JobId}

/-- The jobs that some calls settle, in their order. -/
def settlements (cs : List HubCall) : List JobId := cs.filterMap HubCall.settlement?

theorem settlements_cons (call : HubCall) (cs : List HubCall) :
    settlements (call :: cs) = call.settlement?.toList ++ settlements cs := by
  unfold settlements
  rw [List.filterMap_cons]
  cases call.settlement? <;> rfl

/-- Every call keeps the window on the settlements. -/
theorem remembers_act (hr : h.cache.Remembers capacity settled) (call : HubCall) :
    (call.act h).cache.Remembers capacity (settled ++ call.settlement?.toList) := by
  cases call with
  | publish e =>
    show (h.publish e).2.cache.Remembers _ _
    rw [cache_publish, HubCall.settlement?]
    split
    · exact (hr.stored e).settle e.jobId
    · simpa using hr.stored e
  | forget job => simpa [HubCall.settlement?] using ⟨hr.size, hr.window⟩
  | visit v =>
    show (v.act h).cache.Remembers _ _
    rw [v.cache_act]
    simpa [HubCall.settlement?] using hr

theorem remembers_calls (hr : h.cache.Remembers capacity settled) (cs : List HubCall) :
    (h.calls cs).cache.Remembers capacity (settled ++ settlements cs) := by
  induction cs generalizing h settled with
  | nil => exact (List.append_nil settled).symm ▸ hr
  | cons call cs ih =>
    rw [settlements_cons, ← List.append_assoc]
    exact ih (remembers_act hr call)

private theorem filter_droppedBy_nil (latest : Option Event) :
    (latest.filter fun e => ¬(job ∈ droppedBy capacity settled [] ∧ e.status.isTerminal = true)) =
      latest := by
  cases latest with
  | none => rfl
  | some e => simp [Option.filter_some]

/-- A call leaves the latest event of a job as it is unless it publishes one, forgets it, or lets a
settlement of the job leave the window. -/
theorem latest?_act (hs : h.Sound) (hr : h.cache.Remembers capacity settled)
    (hforget : call ≠ .forget job) :
    (call.act h).latest? job = ((call.published? job).or (h.latest? job)).filter fun e =>
      ¬(job ∈ droppedBy capacity settled call.settlement?.toList ∧ e.status.isTerminal = true) := by
  cases call with
  | publish e =>
    obtain ⟨owner, howned⟩ := hs.cache
    have hlatest : ((h.cache.takeSlot e.jobId).2.store (h.cache.takeSlot e.jobId).1 e).latest? job =
        ((HubCall.publish e).published? job).or (h.latest? job) := by
      rw [howned.latest?_store, HubCall.published?]
      by_cases hjob : job = e.jobId
      · rw [if_pos hjob, if_pos hjob.symm, Option.some_or]
      · rw [if_neg hjob, if_neg (Ne.symm hjob), Option.none_or]
        rfl
    show (h.publish e).2.cache.latest? job = _
    rw [cache_publish, ← hlatest, HubCall.settlement?]
    split
    · exact (hr.stored e).latest?_settle e.jobId job
    · exact (filter_droppedBy_nil _).symm
  | forget j =>
    have hj : job ≠ j := fun heq => hforget (by rw [heq])
    refine (EventCache.latest?_dropSlot h.cache j job).trans ((if_neg hj).trans ?_)
    exact (filter_droppedBy_nil _).symm
  | visit v =>
    refine (congrArg (EventCache.latest? · job) (v.cache_act h)).trans ?_
    exact (filter_droppedBy_nil _).symm

/-- As long as a job publishes nothing and is not forgotten, it loses its latest event only if that
is final and a settlement of the job leaves the window. -/
theorem latest?_calls (hs : h.Sound) (hr : h.cache.Remembers capacity settled)
    (quiet : ∀ call ∈ cs, call.published? job = none) (kept : .forget job ∉ cs) :
    (h.calls cs).latest? job = (h.latest? job).filter fun e =>
      ¬(job ∈ droppedBy capacity settled (settlements cs) ∧ e.status.isTerminal = true) := by
  induction cs generalizing h settled with
  | nil => exact (filter_droppedBy_nil _).symm
  | cons call cs ih =>
    obtain ⟨hcall, hquiet⟩ := List.forall_mem_cons.mp quiet
    obtain ⟨hforget, hkept⟩ := not_or.mp (List.mem_cons.not.mp kept)
    have hnow := latest?_act hs hr (Ne.symm hforget)
    rw [hcall, Option.none_or] at hnow
    rw [settlements_cons, droppedBy_append]
    refine (ih (hs.act call) (remembers_act hr call) hquiet hkept).trans ?_
    rw [hnow, Option.filter_filter]
    congr 1
    funext e
    simp only [List.mem_append]
    by_cases hterminal : e.status.isTerminal = true <;> simp [hterminal]

/-! ## Settled jobs -/

/-- The final event of a job is the latest until a settlement of the job leaves the window: one
that is remembered from before, or this one. If none is remembered, that takes as many further
settlements as the capacity allows. -/
theorem latest_of_final (capacity : Nat) (before after : List HubCall) (e : Event)
    (final : e.status.isTerminal = true) (quiet : ∀ call ∈ after, call.published? e.jobId = none)
    (kept : .forget e.jobId ∉ after) :
    ((empty capacity).calls (before ++ .publish e :: after)).latest? e.jobId =
        (if e.jobId ∈ droppedBy capacity (settlements before) (e.jobId :: settlements after)
        then none else some e) ∧
      (e.jobId ∉ (settlements before).drop ((settlements before).length - capacity) →
        (((empty capacity).calls (before ++ .publish e :: after)).latest? e.jobId = some e ↔
          (settlements after).length < capacity)) := by
  have hs := (sound_empty capacity).calls before
  have hr := remembers_calls (h := empty capacity) (EventCache.remembers_empty capacity) before
  rw [List.nil_append] at hr
  have hsettlement : (HubCall.publish e).settlement? = some e.jobId := if_pos final
  have hpublished : (HubCall.publish e).published? e.jobId = some e := if_pos rfl
  have hlatest : ((empty capacity).calls (before ++ .publish e :: after)).latest? e.jobId =
      if e.jobId ∈ droppedBy capacity (settlements before) (e.jobId :: settlements after)
      then none else some e := by
    have hr' := remembers_act hr (.publish e)
    -- the event may be dropped at once, or later on
    rw [calls_append]
    refine (latest?_calls (hs.act (.publish e)) hr' quiet kept).trans ?_
    rw [latest?_act hs hr (by rintro ⟨⟩), hpublished, hsettlement, Option.some_or,
      Option.filter_filter, Option.filter_some, ← List.singleton_append, droppedBy_append]
    simp only [List.mem_append, final, Option.toList_some, and_true, ← Bool.decide_and,
      decide_eq_true_eq, ← not_or, ite_not]
  refine ⟨hlatest, fun hnew => ?_⟩
  rw [hlatest, ← Nat.not_le, ← EventCache.mem_droppedBy_cons hnew]
  split
  · next hdropped => simp [hdropped]
  · next hdropped => simp [hdropped]

/-- A job fails, is tried again and is done, in a cache that remembers two settlements. -/
def secondTry : List HubCall :=
  [.publish (.ofStatus .nil .failed none (some "no answer")),
    .publish (.ofStatus .nil .retrying none none)]

/-- When another job settles, the first settlement of the job leaves the window, and its last event
goes with it. -/
theorem latest_of_secondTry :
    ((empty 2).calls (secondTry ++ .publish (.ofStatus .nil .completed none none) ::
      [.publish (.ofStatus (.ofNat 1) .completed none none)])).latest? .nil = none := by
  have hkept := latest_of_final 2 secondTry
    [.publish (.ofStatus (.ofNat 1) .completed none none)] (.ofStatus .nil .completed none none) rfl
    (by simp [HubCall.published?, Event.ofStatus]; decide) (by simp)
  exact hkept.1.trans (if_pos (by decide))

/-- Fewer jobs than the capacity may have settled since the last event of a job, and yet it is
gone. -/
theorem not_latest_of_few_settlers :
    ¬∀ (capacity : Nat) (before after : List HubCall) (e : Event), e.status.isTerminal = true →
      (∀ call ∈ after, call.published? e.jobId = none) → .forget e.jobId ∉ after →
      (settlements after).dedup.length < capacity →
      ((empty capacity).calls (before ++ .publish e :: after)).latest? e.jobId = some e := by
  intro h
  -- a job that fails and is done later leaves a window of one settlement to itself
  have hkept := h 1 secondTry [] (.ofStatus .nil .completed none none) rfl (by simp) (by simp)
    (by decide)
  have hgone : ((empty 1).calls
      (secondTry ++ [.publish (.ofStatus .nil .completed none none)])).latest? .nil = none := rfl
  exact Option.some_ne_none _ (hkept.symm.trans hgone)

end Hub

end JobRunner
