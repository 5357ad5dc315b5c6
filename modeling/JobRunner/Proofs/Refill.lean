import JobRunner.Proofs.Fifo
import JobRunner.Proofs.Listings
import JobRunner.Proofs.Recovery

/-!
# The recovery of one type

- `Store.Revived`, `Store.PartlyRevived`: all orphans of some types have become retrying, or some of
  them have.
- `Queue.Extended`: ids have been appended to one lane, each with a ring.
- `Queue.Refilled`: a lane has got the runnable jobs of its type that did not wait there.
- `Queue.recoverType_cases`: the recovery of a type refills its lane, or a failing call ends it
  before any lane is touched.
-/

namespace JobRunner

/-! ## Revived orphans -/

namespace Job

/-- What a record becomes when the orphans of some types are revived: whoever was processing is
retrying from then on. -/
def revived (clock : JobId → Instant) (types : List String) (job : Job) : Job :=
  if job.jobType ∈ types ∧ job.status = .processing then job.moved .retrying (clock job.id)
  else job

variable {clock clock' : JobId → Instant} {types types' : List String} {job : Job}

@[simp] theorem revived_id : (job.revived clock types).id = job.id := by
  unfold revived
  split <;> rfl

@[simp] theorem revived_jobType : (job.revived clock types).jobType = job.jobType := by
  unfold revived
  split <;> rfl

/-- An orphan of one of the types becomes runnable again. -/
theorem revived_of_orphan (h : job.jobType ∈ types ∧ job.status = .processing) :
    job.revived clock types = job.moved .retrying (clock job.id) := if_pos h

/-- Every other job is left as it is. -/
theorem revived_of_not_orphan (h : ¬(job.jobType ∈ types ∧ job.status = .processing)) :
    job.revived clock types = job := if_neg h

/-- Nothing becomes of a record that has been revived already. -/
theorem revived_revived : (job.revived clock types).revived clock' types' =
    if job.jobType ∈ types ∧ job.status = .processing then job.revived clock types
    else job.revived clock' types' := by
  by_cases h : job.jobType ∈ types ∧ job.status = .processing
  · rw [if_pos h, revived_of_orphan h]
    exact revived_of_not_orphan fun h' => Status.noConfusion h'.2
  · rw [if_neg h, revived_of_not_orphan h]

/-- No orphan of the types is left. -/
theorem status_revived_ne (htype : job.jobType ∈ types) :
    (job.revived clock types).status ≠ .processing := by
  by_cases h : job.status = .processing
  · rw [revived_of_orphan ⟨htype, h⟩]
    exact Status.noConfusion
  · rw [revived_of_not_orphan fun h' => h h'.2]
    exact h

end Job

namespace Store

variable {clock clock' : JobId → Instant} {types types' : List String} {ids : List JobId}
  {s s' s'' : Store}

/-- The orphans of some types have become retrying, and nothing else has changed. -/
structure Revived (clock : JobId → Instant) (types : List String) (s s' : Store) : Prop where
  jobs : ∀ id, s'.job? id = (s.job? id).map (Job.revived clock types)
  outcomes : s'.outcomes = s.outcomes

/-- Orphans of some types may have become retrying, at one time or another. -/
structure PartlyRevived (types : List String) (s s' : Store) : Prop where
  jobs : ∀ id, s'.job? id = s.job? id ∨
    ∃ clock, s'.job? id = (s.job? id).map (Job.revived clock types)
  outcomes : s'.outcomes = s.outcomes

/-- The jobs with some ids have become retrying, and nothing else has changed. -/
structure Marked (clock : JobId → Instant) (ids : List JobId) (s s' : Store) : Prop where
  jobs : ∀ id, s'.job? id =
    if id ∈ ids then (s.job? id).map fun job => job.moved .retrying (clock job.id)
    else s.job? id
  outcomes : s'.outcomes = s.outcomes

theorem revived_nil (clock : JobId → Instant) (s : Store) : s.Revived clock [] s := by
  refine ⟨fun id => ?_, rfl⟩
  cases s.job? id with
  | none => rfl
  | some job =>
    exact congrArg some (Job.revived_of_not_orphan fun h => List.not_mem_nil h.1).symm

/-- Types can be revived one after the other. -/
theorem Revived.trans (h : s.Revived clock types s') (h' : s'.Revived clock types' s'') :
    s.Revived clock (types ++ types') s'' := by
  refine ⟨fun id => ?_, h'.outcomes.trans h.outcomes⟩
  rw [h'.jobs, h.jobs, Option.map_map]
  refine congrArg (Option.map · (s.job? id)) (funext fun job => ?_)
  show (job.revived clock types).revived clock types' = _
  rw [Job.revived_revived]
  unfold Job.revived
  simp only [List.mem_append, or_and_right]
  split <;> split <;> simp_all

/-- What has been revived has been revived in part. -/
theorem Revived.partly (h : s.Revived clock types s') : s.PartlyRevived types s' :=
  ⟨fun id => .inr ⟨clock, h.jobs id⟩, h.outcomes⟩

theorem Revived.keyed (h : s.Revived clock types s') (hk : s.Keyed) : s'.Keyed := by
  intro id job hjob
  rw [h.jobs] at hjob
  obtain ⟨job₀, hjob₀, rfl⟩ := Option.map_eq_some_iff.mp hjob
  rw [Job.revived_id]
  exact hk id job₀ hjob₀

namespace PartlyRevived

theorem refl (types : List String) (s : Store) : s.PartlyRevived types s :=
  ⟨fun _ => .inl rfl, rfl⟩

/-- Parts can be revived one after the other. -/
theorem trans (h : s.PartlyRevived types s') (h' : s'.PartlyRevived types s'') :
    s.PartlyRevived types s'' := by
  refine ⟨fun id => ?_, h'.outcomes.trans h.outcomes⟩
  rcases h'.jobs id with hsame | ⟨clock', hrevived⟩
  · rw [hsame]
    exact h.jobs id
  · rcases h.jobs id with hsame | ⟨clock, hbefore⟩
    · exact .inr ⟨clock', by rw [hrevived, hsame]⟩
    · -- whoever has been revived the first time is not revived again
      rw [hrevived, hbefore, Option.map_map]
      cases hjob : s.job? id with
      | none => exact .inl rfl
      | some job =>
        by_cases horphan : job.jobType ∈ types ∧ job.status = .processing
        · refine .inr ⟨clock, congrArg some ?_⟩
          exact Job.revived_revived.trans (if_pos horphan)
        · refine .inr ⟨clock', congrArg some ?_⟩
          exact Job.revived_revived.trans (if_neg horphan)

/-- A part of some types is a part of more. -/
theorem mono (h : s.PartlyRevived types s') (hsub : ∀ t ∈ types, t ∈ types') :
    s.PartlyRevived types' s' := by
  refine ⟨fun id => ?_, h.outcomes⟩
  rcases h.jobs id with hsame | ⟨clock, hrevived⟩
  · exact .inl hsame
  · rw [hrevived]
    cases hjob : s.job? id with
    | none => exact .inl rfl
    | some job =>
      by_cases horphan : job.jobType ∈ types ∧ job.status = .processing
      · refine .inr ⟨clock, congrArg some ?_⟩
        rw [Job.revived_of_orphan horphan,
          Job.revived_of_orphan ⟨hsub _ horphan.1, horphan.2⟩]
      · exact .inl (congrArg some (Job.revived_of_not_orphan horphan))

theorem keyed (h : s.PartlyRevived types s') (hk : s.Keyed) : s'.Keyed := by
  intro id job hjob
  rcases h.jobs id with hsame | ⟨clock, hrevived⟩
  · exact hk id job (hsame.symm.trans hjob)
  · rw [hrevived] at hjob
    obtain ⟨job₀, hjob₀, rfl⟩ := Option.map_eq_some_iff.mp hjob
    rw [Job.revived_id]
    exact hk id job₀ hjob₀

end PartlyRevived

/-- The jobs marked are orphans of a type. -/
theorem Marked.partly {t : String} (h : s.Marked clock ids s')
    (horphans : ∀ id ∈ ids, ∃ job, s.job? id = some job ∧ job.jobType = t ∧
      job.status = .processing) : s.PartlyRevived [t] s' := by
  refine ⟨fun id => ?_, h.outcomes⟩
  rw [h.jobs]
  split
  · next hid =>
    obtain ⟨job, hjob, htype, hstatus⟩ := horphans id hid
    refine .inr ⟨clock, ?_⟩
    rw [hjob, Option.map_some, Option.map_some,
      Job.revived_of_orphan ⟨List.mem_singleton.mpr htype, hstatus⟩]
  · exact .inl rfl

/-- The jobs marked are all orphans of a type. -/
theorem Marked.revived {t : String} (h : s.Marked clock ids s')
    (horphans : ∀ id, id ∈ ids ↔ ∃ job, s.job? id = some job ∧ job.jobType = t ∧
      job.status = .processing) : s.Revived clock [t] s' := by
  refine ⟨fun id => ?_, h.outcomes⟩
  rw [h.jobs]
  split
  · next hid =>
    obtain ⟨job, hjob, htype, hstatus⟩ := (horphans id).mp hid
    rw [hjob, Option.map_some, Option.map_some,
      Job.revived_of_orphan ⟨List.mem_singleton.mpr htype, hstatus⟩]
  · next hid =>
    cases hjob : s.job? id with
    | none => rfl
    | some job =>
      rw [Option.map_some, Job.revived_of_not_orphan fun h => hid ((horphans id).mpr
        ⟨job, hjob, List.mem_singleton.mp h.1, h.2⟩)]

end Store

namespace Queue

variable {clock : JobId → Instant} {q q' q₁ : Queue} {t : String} {id : JobId} {ids : List JobId}

/-- Stored jobs are marked one after the other, all of them unless a call fails. -/
theorem revive_marked (clock : JobId → Instant) (jobs : List Job) (q : Queue)
    (stored : ∀ job ∈ jobs, q.backend.store.job? job.id = some job)
    (nodup : (jobs.map Job.id).Nodup) :
    ∃ b done rest, jobs = done ++ rest ∧ (revive clock jobs q).2 = { q with backend := b } ∧
      q.backend.store.Marked clock (done.map Job.id) b.store ∧
      ((revive clock jobs q).1 = .ok () → rest = []) := by
  induction jobs generalizing q with
  | nil =>
    refine ⟨q.backend, [], [], rfl, rfl, ⟨fun id => ?_, rfl⟩, fun _ => rfl⟩
    rw [List.map_nil, if_neg List.not_mem_nil]
  | cons job jobs ih =>
    obtain ⟨hnew, hnodup⟩ := List.nodup_cons.mp nodup
    unfold revive
    rcases hu : q.backend.updateJob { job with status := .retrying, updatedAt := clock job.id } with
      ⟨e | u, b⟩
    · have hstore : b.store = q.backend.store := Backend.call_error hu
      refine ⟨b, [], job :: jobs, rfl, rfl, ⟨fun id => ?_, by rw [hstore]⟩, fun hok => by cases hok⟩
      rw [List.map_nil, if_neg List.not_mem_nil, hstore]
    · have hput : b.store = q.backend.store.put (job.moved .retrying (clock job.id)) :=
        (Backend.updateJob_ok hu).2
      have hrecord : ∀ id, b.store.job? id =
          if job.id = id then some (job.moved .retrying (clock job.id))
          else q.backend.store.job? id := by
        intro id
        rw [hput]
        exact Store.job?_put _ _ id
      -- no id is listed twice, so the records still to be marked are as they were listed
      have hstored : ∀ x ∈ jobs, b.store.job? x.id = some x := by
        intro x hx
        have hne : job.id ≠ x.id := fun heq => hnew (List.mem_map.mpr ⟨x, hx, heq.symm⟩)
        rw [hrecord, if_neg hne]
        exact stored x (List.mem_cons_of_mem job hx)
      obtain ⟨b', done, rest, hjobs, hq, hmarked, hall⟩ := ih { q with backend := b } hstored hnodup
      refine ⟨b', job :: done, rest, by rw [hjobs]; rfl, hq, ⟨fun id => ?_, ?_⟩, hall⟩
      · rw [hmarked.jobs, hrecord, List.map_cons]
        by_cases hid : job.id = id
        · subst hid
          have hdone : job.id ∉ done.map Job.id := fun hmem =>
            hnew (by rw [hjobs, List.map_append]; exact List.mem_append_left _ hmem)
          rw [if_neg hdone, if_pos rfl, if_pos List.mem_cons_self, stored job List.mem_cons_self]
          rfl
        · have hmem : id ∈ job.id :: done.map Job.id ↔ id ∈ done.map Job.id := by
            rw [List.mem_cons]
            exact or_iff_right (Ne.symm hid)
          simp only [hmem, if_neg hid]
      · rw [hmarked.outcomes, hput]
        rfl

end Queue

/-! ## Appended ids -/

/-- A lane to which ids have been appended, each with a ring. -/
def Lane.extend (l : Lane) (ids : List JobId) : Lane :=
  ids.foldl (fun l id => (l.pushBack id).2.ring) l

namespace Queue

variable {clock : JobId → Instant} {q q' q₁ : Queue} {t : String} {id : JobId} {ids : List JobId}

/-- Ids have been appended to the lane of a type, each with a ring, and no other lane has changed.
-/
structure Extended (q q' : Queue) (t : String) (new : List JobId) : Prop where
  ids : (q'.lane t).ids = (q.lane t).ids ++ new
  lane : q'.lanes[t]? = if new = [] then q.lanes[t]? else some ((q.lane t).extend new)
  others : ∀ t', t' ≠ t → q'.lanes[t']? = q.lanes[t']?
  settings : q'.settings = q.settings
  sound : q'.Sound

namespace Extended

/-- A queue that keeps its lanes is extended by nothing. -/
theorem of_lanes_eq (hs : q.Sound) (hlanes : ∀ t : String, q'.lanes[t]? = q.lanes[t]?)
    (hsettings : q'.settings = q.settings) (t : String) : q.Extended q' t [] where
  ids := by
    rw [lane_eq_of_getElem? (hlanes t), List.append_nil]
  lane := hlanes t
  others t' _ := hlanes t'
  settings := hsettings
  sound t' := lane_eq_of_getElem? (hlanes t') ▸ hs t'

/-- An id that does not wait is appended, and then some more. -/
theorem cons (hs : q.Sound) (hnew : ¬q.Waits t id) (h : (q.append t id).2.Extended q' t ids) :
    q.Extended q' t (id :: ids) := by
  have happend := append_of_not_waits hs hnew
  have hlane : (q.append t id).2.lanes[t]? = some (((q.lane t).pushBack id).2.ring) := by
    rw [happend, ring, lane_setLane, if_pos rfl]
    exact Std.TreeMap.getElem?_insert_self
  refine ⟨?_, ?_, fun t' hne => ?_, ?_, h.sound⟩
  · rw [h.ids, ids_append hs hnew, List.append_assoc]
    rfl
  · rw [h.lane, hlane, lane_eq_of_getElem?_eq_some hlane, if_neg (List.cons_ne_nil id ids)]
    split
    · next hnil => rw [hnil]; rfl
    · rfl
  · rw [h.others t' hne, getElem?_append q id hne]
  · rw [h.settings, happend]
    rfl

/-- An id that waits is not appended. -/
theorem of_waits (hs : q.Sound) {job : Job} (hwaits : q.Waits job.jobType job.id)
    (h : (q.requeue job).2.Extended q' job.jobType ids) : q.Extended q' job.jobType ids := by
  obtain ⟨-, -, hsettings, hlanes⟩ := requeue_of_waits hs hwaits
  have hsame := lane_eq_of_getElem? (hlanes job.jobType)
  refine ⟨?_, ?_, fun t' hne => (h.others t' hne).trans (hlanes t'), h.settings.trans hsettings,
    h.sound⟩
  · rw [h.ids, hsame]
  · rw [h.lane, hlanes, hsame]

/-- The store does not matter for what has been appended. -/
theorem ofBackend {b : Backend} (h : ({ q with backend := b } : Queue).Extended q' t ids) :
    q.Extended q' t ids := ⟨h.ids, h.lane, h.others, h.settings, h.sound⟩

end Extended

/-- The jobs among some that are runnable and do not wait. -/
def lacking (q : Queue) (t : String) (jobs : List Job) : List Job :=
  jobs.filter fun job => job.status.isRunnable ∧ job.id ∉ (q.lane t).ids

/-- A lane lacks the runnable jobs that do not wait in it. -/
theorem mem_lacking {jobs : List Job} {job : Job} : job ∈ q.lacking t jobs ↔
    job ∈ jobs ∧ job.status.isRunnable = true ∧ ¬q.Waits t job.id := by
  unfold lacking Waits
  rw [List.mem_filter, decide_eq_true_eq]

/-- The runnable ones of some jobs of a type are appended if they do not wait already. -/
theorem appendRunnable_extended (jobs : List Job) (q : Queue) (hs : q.Sound)
    (typed : ∀ job ∈ jobs, job.jobType = t) (nodup : (jobs.map Job.id).Nodup) :
    (appendRunnable jobs q).1 = (q.lacking t jobs).length ∧
      q.Extended (appendRunnable jobs q).2 t ((q.lacking t jobs).map Job.id) := by
  induction jobs generalizing q with
  | nil => exact ⟨rfl, .of_lanes_eq hs (fun _ => rfl) rfl t⟩
  | cons job jobs ih =>
    obtain ⟨hnew, hnodup⟩ := List.nodup_cons.mp nodup
    obtain rfl : job.jobType = t := typed job List.mem_cons_self
    have htyped : ∀ x ∈ jobs, x.jobType = job.jobType :=
      fun x hx => typed x (List.mem_cons_of_mem job hx)
    have hadded := push_added_iff hs job.jobType job.id
    unfold appendRunnable
    by_cases hrun : job.status.isRunnable = true
    · have hsound : (q.requeue job).2.Sound := hs.append job.jobType job.id
      obtain ⟨hcount, hextended⟩ := ih (q.requeue job).2 hsound htyped hnodup
      rw [if_pos hrun]
      by_cases hwaits : q.Waits job.jobType job.id
      · obtain ⟨hfalse, -, -, hlanes⟩ := requeue_of_waits hs hwaits
        have hrest : (q.requeue job).2.lacking job.jobType jobs = q.lacking job.jobType jobs := by
          unfold lacking
          rw [lane_eq_of_getElem? (hlanes job.jobType)]
        have hlacking : q.lacking job.jobType (job :: jobs) = q.lacking job.jobType jobs :=
          List.filter_cons_of_neg fun h => (of_decide_eq_true h).2 hwaits
        rw [hrest] at hcount hextended
        rw [hlacking]
        refine ⟨?_, .of_waits hs hwaits hextended⟩
        show (if (q.requeue job).1 = true then _ else _) = _
        rw [hfalse]
        exact hcount
      · have htrue : (q.requeue job).1 = true := hadded.mpr hwaits
        -- the id that has just been appended is not among the others
        have hrest : (q.requeue job).2.lacking job.jobType jobs = q.lacking job.jobType jobs := by
          refine List.filter_congr fun x hx => ?_
          have hne : x.id ≠ job.id := fun heq => hnew (List.mem_map.mpr ⟨x, hx, heq⟩)
          have hids := ids_append (t := job.jobType) hs hwaits
          have hmem : x.id ∈ ((q.requeue job).2.lane job.jobType).ids ↔
              x.id ∈ (q.lane job.jobType).ids := by
            show x.id ∈ ((q.append job.jobType job.id).2.lane job.jobType).ids ↔ _
            rw [hids, List.mem_append, List.mem_singleton]
            exact or_iff_left hne
          simp only [hmem]
        have hlacking : q.lacking job.jobType (job :: jobs) = job :: q.lacking job.jobType jobs :=
          List.filter_cons_of_pos (decide_eq_true ⟨hrun, hwaits⟩)
        rw [hrest] at hcount hextended
        rw [hlacking]
        refine ⟨?_, .cons hs hwaits hextended⟩
        show (if (q.requeue job).1 = true then _ else _) = _
        rw [if_pos htrue, hcount]
        rfl
    · have hlacking : q.lacking job.jobType (job :: jobs) = q.lacking job.jobType jobs :=
        List.filter_cons_of_neg fun h => hrun (of_decide_eq_true h).1
      rw [if_neg hrun, hlacking]
      exact ih q hs htyped hnodup

/-! ## One type -/

/-- A lane has got, besides the ids that waited there, those of `added`: the jobs stored by now
that are of its type and runnable and did not wait, by age. -/
structure Refilled (q q' : Queue) (t : String) (added : List Job) : Prop where
  ids : (q'.lane t).ids = (q.lane t).ids ++ added.map Job.id
  /-- The bell has been rung for each of them. -/
  lane : q'.lanes[t]? =
    if added = [] then q.lanes[t]? else some ((q.lane t).extend (added.map Job.id))
  mem : ∀ job, job ∈ added ↔ q'.backend.store.job? job.id = some job ∧ job.jobType = t ∧
    job.status.isRunnable = true ∧ ¬q.Waits t job.id
  sorted : added.Pairwise Job.Older

/-- What a refill does to the lanes has nothing to do with the store before it. -/
theorem Refilled.ofBackend {b : Backend} {added : List Job}
    (h : ({ q with backend := b } : Queue).Refilled q' t added) : q.Refilled q' t added :=
  ⟨h.ids, h.lane, h.mem, h.sorted⟩

/-- A lane that is extended by what it lacks is refilled. -/
theorem Extended.refilled {jobs : List Job}
    (h : q.Extended q' t ((q.lacking t jobs).map Job.id))
    (listed : ∀ job, job ∈ jobs ↔ q'.backend.store.job? job.id = some job ∧ job.jobType = t)
    (sorted : jobs.Pairwise Job.Older) : q.Refilled q' t (q.lacking t jobs) := by
  refine ⟨h.ids, ?_, fun job => ?_, sorted.filter _⟩
  · rw [h.lane]
    simp only [List.map_eq_nil_iff]
  · rw [mem_lacking, listed, and_assoc]

/-- The recovery of a type either fails, when it may have revived some of its orphans and has
touched no lane, or it revives them all and refills the lane. -/
theorem recoverType_cases (hs : q.Sound) (hk : q.backend.store.Keyed) (clock : JobId → Instant)
    (t : String) :
    (∃ e, (recoverType clock t q).1 = .error e ∧ (recoverType clock t q).2.lanes = q.lanes ∧
        (recoverType clock t q).2.settings = q.settings ∧
        q.backend.store.PartlyRevived [t] (recoverType clock t q).2.backend.store) ∨
      ∃ added, (recoverType clock t q).1 = .ok added.length ∧
        q.backend.store.Revived clock [t] (recoverType clock t q).2.backend.store ∧
        q.Extended (recoverType clock t q).2 t (added.map Job.id) ∧
        q.Refilled (recoverType clock t q).2 t added := by
  have unchanged : ∀ {s : Store}, s = q.backend.store → q.backend.store.PartlyRevived [t] s := by
    rintro s rfl
    exact .refl [t] _
  -- no lane is touched before the last listing, after which no call is left that could fail
  unfold recoverType
  rcases hl : q.backend.listByType t (some .processing) with ⟨e | orphans, b⟩
  · exact .inl ⟨e, rfl, rfl, rfl, unchanged (Backend.call_error hl)⟩
  · obtain ⟨rfl, hb⟩ := Backend.listByType_ok hl
    have horphan : ∀ job ∈ q.backend.store.listByType t (some .processing),
        b.store.job? job.id = some job := by
      intro job hjob
      rw [hb]
      exact ((Store.mem_listByType hk).mp hjob).1
    obtain ⟨b₁, done, rest, hjobs, hrevive, hmarked, hall⟩ := revive_marked clock _
      { q with backend := b } horphan (Store.nodup_listByType hk t (some .processing))
    have hmarked : q.backend.store.Marked clock (done.map Job.id) b₁.store := hb ▸ hmarked
    have horphans : ∀ id ∈ done.map Job.id, ∃ job, q.backend.store.job? id = some job ∧
        job.jobType = t ∧ job.status = .processing := by
      intro id hid
      obtain ⟨job, hjob, rfl⟩ := List.mem_map.mp hid
      have hlisted : job ∈ q.backend.store.listByType t (some .processing) := by
        rw [hjobs]
        exact List.mem_append_left rest hjob
      obtain ⟨hstored, htype, hstatus⟩ := (Store.mem_listByType hk).mp hlisted
      exact ⟨job, hstored, htype, by simpa using hstatus⟩
    have hpartly := hmarked.partly horphans
    rcases hr : revive clock (q.backend.store.listByType t (some .processing))
      { q with backend := b } with ⟨e | u, q₁⟩
    · rw [hr] at hrevive
      obtain rfl : q₁ = { q with backend := b₁ } := hrevive
      dsimp only
      rw [hr]
      exact .inl ⟨e, rfl, rfl, rfl, hpartly⟩
    · rw [hr] at hrevive hall
      obtain rfl : q₁ = { q with backend := b₁ } := hrevive
      obtain rfl : rest = [] := hall rfl
      rw [List.append_nil] at hjobs
      dsimp only
      rw [hr]
      dsimp only
      have hrevived : q.backend.store.Revived clock [t] b₁.store := by
        refine hmarked.revived fun id => ⟨horphans id, ?_⟩
        rintro ⟨job, hstored, htype, hstatus⟩
        obtain rfl : job.id = id := hk id job hstored
        refine List.mem_map.mpr ⟨job, ?_, rfl⟩
        rw [← hjobs]
        exact (Store.mem_listByType hk).mpr ⟨hstored, htype, by simp [hstatus]⟩
      rcases hl' : b₁.listByType t none with ⟨e | jobs, b₂⟩
      · have hb₂ : b₂.store = b₁.store := Backend.call_error hl'
        exact .inl ⟨e, rfl, rfl, rfl, hb₂ ▸ hpartly⟩
      · obtain ⟨rfl, hb₂⟩ := Backend.listByType_ok hl'
        have hk₁ := hrevived.keyed hk
        obtain ⟨hcount, hextended⟩ := appendRunnable_extended (t := t)
          (b₁.store.listByType t none) { q with backend := b₂ } (hs.backend b₂)
          (fun job hjob => ((Store.mem_listByType hk₁).mp hjob).2.1)
          (Store.nodup_listByType hk₁ t none)
        have hstore : (appendRunnable (b₁.store.listByType t none)
            { q with backend := b₂ }).2.backend.store = b₁.store := by
          rw [backend_appendRunnable]
          exact hb₂
        have hlisted : ∀ job, job ∈ b₁.store.listByType t none ↔
            b₁.store.job? job.id = some job ∧ job.jobType = t := by
          intro job
          rw [Store.mem_listByType hk₁]
          simp
        have hrefilled := hextended.refilled (by rw [hstore]; exact hlisted)
          (Store.sorted_listByType hk₁ t none)
        refine .inr ⟨_, congrArg Except.ok hcount, ?_, hextended.ofBackend, hrefilled.ofBackend⟩
        rw [hstore]
        exact hrevived

end Queue

end JobRunner
