import JobRunner.Proofs.Transfers

/-!
# Recovery

What a recovery does to the store and to the lanes, whether or not it comes to its end.

- `Store.Revives`: jobs that were processing may have become retrying, and nothing else has changed.
- `Queue.Filled`: the lanes of a queue are sound and hold runnable jobs of their types only.
- `Queue.recover_revives`: a recovery revives the store and keeps the lanes filled.
-/

namespace JobRunner

/-! ## Revived stores -/

/-- Jobs that were processing may have become retrying, and nothing else has changed. -/
structure Store.Revives (clock : JobId → Instant) (s s' : Store) : Prop where
  jobs : ∀ id, s'.job? id = s.job? id ∨
    ∃ job, s.job? id = some job ∧ job.status = .processing ∧
      s'.job? id = some (job.moved .retrying (clock id))
  outcomes : ∀ id, s'.outcome? id = s.outcome? id

namespace Store.Revives

variable {clock : JobId → Instant} {s s' s'' : Store}

theorem refl (clock : JobId → Instant) (s : Store) : Revives clock s s :=
  ⟨fun _ => .inl rfl, fun _ => rfl⟩

theorem trans (h : Revives clock s s') (h' : Revives clock s' s'') : Revives clock s s'' := by
  refine ⟨fun id => ?_, fun id => (h'.outcomes id).trans (h.outcomes id)⟩
  rcases h'.jobs id with hsame | ⟨job, hjob, hstatus, hmoved⟩
  · rw [hsame]
    exact h.jobs id
  · rcases h.jobs id with hsame | ⟨job₀, -, -, hmoved₀⟩
    · exact .inr ⟨job, hsame.symm.trans hjob, hstatus, hmoved⟩
    · -- revived before, it was retrying then, not processing
      rw [hjob] at hmoved₀
      cases hmoved₀
      cases hstatus

/-- One more job that was processing is written as retrying. -/
theorem put (h : Revives clock s s') {job : Job} (hjob : s.job? job.id = some job)
    (hstatus : job.status = .processing) :
    Revives clock s (s'.put (job.moved .retrying (clock job.id))) := by
  refine ⟨fun id => ?_, h.outcomes⟩
  rw [Store.job?_put, Job.moved_id]
  split
  · next hid => exact .inr ⟨job, hid ▸ hjob, hstatus, hid ▸ rfl⟩
  · exact h.jobs id

theorem keyed (h : Revives clock s s') (hk : s.Keyed) : s'.Keyed := by
  intro id job hjob
  rcases h.jobs id with hsame | ⟨job₀, hjob₀, -, hmoved⟩
  · exact hk id job (hsame.symm.trans hjob)
  · rw [hmoved] at hjob
    cases hjob
    exact hk id job₀ hjob₀

/-- A job that is not stored after a revival was not stored before. -/
theorem fresh (h : Revives clock s s') {id : JobId} (hnone : s'.job? id = none) :
    s.job? id = none := by
  rcases h.jobs id with hsame | ⟨job, -, -, hmoved⟩
  · exact hsame.symm.trans hnone
  · rw [hnone] at hmoved
    cases hmoved

end Store.Revives

/-! ## Filled lanes -/

namespace Queue

/-- The lanes are sound, and hold runnable jobs of their types only. -/
structure Filled (q : Queue) : Prop where
  sound : q.Sound
  posted : ∀ t id, q.Waits t id →
    ∃ job, q.backend.store.job? id = some job ∧ job.jobType = t ∧ job.status.isRunnable = true

variable {q q' : Queue} {clock : JobId → Instant}

/-- A revival touches no job that waits. -/
theorem Filled.revive {b : Backend} (h : q.Filled)
    (revives : Store.Revives clock q.backend.store b.store) :
    ({ q with backend := b } : Queue).Filled := by
  refine ⟨h.sound, fun t id hwaits => ?_⟩
  obtain ⟨job, hjob, htype, hrun⟩ := h.posted t id hwaits
  rcases revives.jobs id with hsame | ⟨job₀, hjob₀, hstatus, -⟩
  · exact ⟨job, hsame.trans hjob, htype, hrun⟩
  · rw [hjob] at hjob₀
    cases hjob₀
    rw [hstatus] at hrun
    cases hrun

/-- A stored job that is runnable may be appended to its lane. -/
theorem Filled.append (h : q.Filled) {job : Job} (hjob : q.backend.store.job? job.id = some job)
    (hrun : job.status.isRunnable = true) : (q.requeue job).2.Filled := by
  have hpush : (q.push job.jobType job.id).2.Filled := by
    refine ⟨h.sound.push job.jobType job.id, fun t id hwaits => ?_⟩
    rcases (waits_push h.sound job.jobType job.id t id).mp hwaits with hold | ⟨rfl, rfl⟩
    · exact h.posted t id hold
    · exact ⟨job, hjob, rfl, hrun⟩
  show (if (q.push job.jobType job.id).1 = true then (q.push job.jobType job.id).2.ring job.jobType
    else (q.push job.jobType job.id).2).Filled
  split
  · refine ⟨hpush.sound.ring job.jobType, fun t id hwaits => ?_⟩
    exact hpush.posted t id ((waits_ring _ _ t id).mp hwaits)
  · exact hpush

/-- Appending a job does not touch the store. -/
theorem backend_requeue (q : Queue) (job : Job) : (q.requeue job).2.backend = q.backend := by
  show (if (q.push job.jobType job.id).1 = true then (q.push job.jobType job.id).2.ring job.jobType
    else (q.push job.jobType job.id).2).backend = _
  split <;> rfl

/-! ## The parts of a recovery -/

/-- Marking jobs as retrying revives the store and leaves the lanes alone. -/
theorem revive_revives {s : Store} (jobs : List Job)
    (processing : ∀ job ∈ jobs, s.job? job.id = some job ∧ job.status = .processing) (q : Queue)
    (h : Store.Revives clock s q.backend.store) :
    ∃ b, (revive clock jobs q).2 = { q with backend := b } ∧ Store.Revives clock s b.store := by
  induction jobs generalizing q with
  | nil => exact ⟨q.backend, rfl, h⟩
  | cons job jobs ih =>
    obtain ⟨hjob, hstatus⟩ := processing job List.mem_cons_self
    unfold revive
    rcases hu : q.backend.updateJob { job with status := .retrying, updatedAt := clock job.id } with
      ⟨e | u, b⟩
    · refine ⟨b, rfl, ?_⟩
      rw [Backend.call_error hu]
      exact h
    · have hput : Store.Revives clock s b.store := by
        rw [(Backend.updateJob_ok hu).2]
        exact h.put hjob hstatus
      exact ih (fun x hx => processing x (List.mem_cons_of_mem job hx)) { q with backend := b } hput

theorem backend_appendRunnable (jobs : List Job) (q : Queue) :
    (appendRunnable jobs q).2.backend = q.backend := by
  induction jobs generalizing q with
  | nil => rfl
  | cons job jobs ih =>
    unfold appendRunnable
    split
    · exact (ih (q.requeue job).2).trans (q.backend_requeue job)
    · exact ih q

/-- Appending stored jobs keeps the lanes filled. -/
theorem appendRunnable_filled (jobs : List Job) (q : Queue) (h : q.Filled)
    (stored : ∀ job ∈ jobs, q.backend.store.job? job.id = some job) :
    (appendRunnable jobs q).2.Filled := by
  induction jobs generalizing q with
  | nil => exact h
  | cons job jobs ih =>
    have hrest : ∀ x ∈ jobs, q.backend.store.job? x.id = some x :=
      fun x hx => stored x (List.mem_cons_of_mem job hx)
    unfold appendRunnable
    split
    · next hrun =>
      have hbackend := q.backend_requeue job
      have happended := h.append (stored job List.mem_cons_self) hrun
      exact ih (q.requeue job).2 happended (by rw [hbackend]; exact hrest)
    · exact ih q h hrest

/-- The recovery of one type. -/
theorem recoverType_revives (h : q.Filled) (hk : q.backend.store.Keyed) (clock : JobId → Instant)
    (t : String) :
    (recoverType clock t q).2.Filled ∧
      Store.Revives clock q.backend.store (recoverType clock t q).2.backend.store := by
  have read : ∀ {b b' : Backend}, b'.store = b.store → Store.Revives clock b.store b'.store :=
    fun hb => hb ▸ .refl clock _
  -- the orphans are listed and revived, then all jobs are listed and appended; each of these calls
  -- may be refused, and then the recovery ends there
  unfold recoverType
  rcases hl : q.backend.listByType t (some .processing) with ⟨e | orphans, b⟩
  · have hread := read (Backend.call_error hl)
    exact ⟨h.revive hread, hread⟩
  · obtain ⟨rfl, hb⟩ := Backend.listByType_ok hl
    have horphans : ∀ job ∈ q.backend.store.listByType t (some .processing),
        q.backend.store.job? job.id = some job ∧ job.status = .processing := by
      intro job hjob
      obtain ⟨hstored, -, hstatus⟩ := (Store.mem_listByType hk).mp hjob
      exact ⟨hstored, by simpa using hstatus⟩
    obtain ⟨b₁, hrevive, hrevives⟩ := revive_revives _ horphans { q with backend := b } (read hb)
    have hfilled : ({ q with backend := b₁ } : Queue).Filled := h.revive hrevives
    rcases hr : revive clock (q.backend.store.listByType t (some .processing))
      { q with backend := b } with ⟨e | u, q₁⟩
    · rw [hr] at hrevive
      obtain rfl : q₁ = { q with backend := b₁ } := hrevive
      simp only [hr]
      exact ⟨hfilled, hrevives⟩
    · rw [hr] at hrevive
      obtain rfl : q₁ = { q with backend := b₁ } := hrevive
      simp only [hr]
      rcases hl' : b₁.listByType t none with ⟨e | jobs, b₂⟩
      · have hread : Store.Revives clock b₁.store b₂.store := read (Backend.call_error hl')
        exact ⟨hfilled.revive hread, hrevives.trans hread⟩
      · obtain ⟨rfl, hb₂⟩ := Backend.listByType_ok hl'
        have hread : Store.Revives clock b₁.store b₂.store := read hb₂
        have hjobs : ∀ job ∈ b₁.store.listByType t none, b₂.store.job? job.id = some job := by
          intro job hjob
          rw [hb₂]
          exact ((Store.mem_listByType (hrevives.keyed hk)).mp hjob).1
        refine ⟨appendRunnable_filled _ _ (hfilled.revive hread) hjobs, ?_⟩
        rw [backend_appendRunnable]
        exact hrevives.trans hread

/-- A recovery keeps the lanes filled and does nothing to the store but revive jobs. -/
theorem recover_revives (clock : JobId → Instant) (types : List String) (q : Queue) (h : q.Filled)
    (hk : q.backend.store.Keyed) :
    (recover clock types q).2.Filled ∧
      Store.Revives clock q.backend.store (recover clock types q).2.backend.store := by
  induction types generalizing q with
  | nil => exact ⟨h, .refl clock _⟩
  | cons t types ih =>
    obtain ⟨hfilled, hrevives⟩ := recoverType_revives h hk clock t
    unfold recover
    rcases hr : recoverType clock t q with ⟨e | n, q₁⟩
    · rw [hr] at hfilled hrevives
      exact ⟨hfilled, hrevives⟩
    · rw [hr] at hfilled hrevives
      obtain ⟨hfilled', hrevives'⟩ := ih q₁ hfilled (hrevives.keyed hk)
      rcases hr' : recover clock types q₁ with ⟨e | m, q₂⟩
      · rw [hr'] at hfilled' hrevives'
        simp only [hr']
        exact ⟨hfilled', hrevives.trans hrevives'⟩
      · rw [hr'] at hfilled' hrevives'
        simp only [hr']
        exact ⟨hfilled', hrevives.trans hrevives'⟩

end Queue

end JobRunner
