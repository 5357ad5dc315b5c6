import JobRunner.Proofs.Life
import JobRunner.Proofs.Recovery

/-!
# The life cycle of jobs, across restarts

- `Job.Proceeds`: how the record of a job may change at once.
- `Attempt.Move.proceeds`: every move of an attempt changes the record so, and leaves a completed
  job alone.
- `Plant.restart`: everything at work is lost, and the lanes are filled again from the store.
- `Plant.lifecycle`: every record proceeds, however often the plant is restarted, and what is
  completed stays as it is.
-/

namespace JobRunner

/-! ## Changes of a record -/

/-- How the record of a job may change at once. -/
structure Job.Proceeds (job job' : Job) : Prop where
  id : job'.id = job.id
  jobType : job'.jobType = job.jobType
  payload : job'.payload = job.payload
  maxAttempts : job'.maxAttempts = job.maxAttempts
  createdAt : job'.createdAt = job.createdAt
  /-- A change of the status is one that is allowed. -/
  status : job'.status ≠ job.status → job.status.mayBecome job'.status = true
  /-- A change to processing is counted. -/
  counted : job'.status = .processing → job.status ≠ .processing →
    job'.attempts = job.attempts + 1
  /-- Nothing else is. -/
  uncounted : ¬(job'.status = .processing ∧ job.status ≠ .processing) →
    job'.attempts = job.attempts

namespace Job.Proceeds

theorem refl (job : Job) : Proceeds job job :=
  ⟨rfl, rfl, rfl, rfl, rfl, fun h => absurd rfl h, fun h h' => absurd h h', fun _ => rfl⟩

/-- A job moves to another state than processing. -/
theorem moved {job : Job} {status : Status} (clock : Instant)
    (may : job.status.mayBecome status = true) (other : status ≠ .processing) :
    Proceeds job (job.moved status clock) :=
  ⟨rfl, rfl, rfl, rfl, rfl, fun _ => may, fun h => absurd h other, fun _ => rfl⟩

/-- A job is claimed. -/
theorem claimed {job : Job} (clock : Instant) (run : job.status.isRunnable = true) :
    Proceeds job (job.claimed clock) := by
  refine ⟨rfl, rfl, rfl, rfl, rfl, fun _ => ?_, fun _ _ => rfl, fun h => absurd ⟨rfl, ?_⟩ h⟩
  · rw [Job.claimed_status, Status.mayBecome_processing, run]
  · intro hprocessing
    rw [hprocessing] at run
    cases run

end Job.Proceeds

namespace Attempt.Move

variable {a a' : Attempt} {es : List Entry} {h : Handover} {record : Job}
  {outcome : Option Outcome}

/-- The record proceeds in every move of an attempt. -/
theorem proceeds (m : Move a a' es h) (fits : a.Fits record outcome) :
    ∃ record', es.foldl Entry.onRecord (some record) = some record' ∧ record.Proceeds record' := by
  cases m with
  | @claim job b clock run room =>
    obtain ⟨rfl, hrun⟩ := fits
    exact ⟨_, rfl, .claimed clock hrun⟩
  | conclude r o tries =>
    obtain ⟨⟨hstatus, clock, rfl, ho⟩, -⟩ := fits
    refine ⟨_, rfl, .moved clock ?_ ?_⟩
    · rw [hstatus, ho]
      exact outcomeOf_status_of_processing _ clock r
    · rw [ho]
      cases r <;> exact Status.noConfusion
  | reschedule clock why may =>
    obtain ⟨⟨rfl, -⟩, -⟩ := fits
    exact ⟨_, rfl, .moved clock may Status.noConfusion⟩
  | _ => exact ⟨record, rfl, .refl record⟩

/-- An attempt does nothing to a job that is completed. -/
theorem of_completed (m : Move a a' es h) (fits : a.Fits record outcome)
    (done : record.status = .completed) :
    es.foldl Entry.onRecord (some record) = some record ∧
      es.foldl Entry.onOutcome outcome = outcome := by
  cases m with
  | claim clock run room =>
    obtain ⟨rfl, hrun⟩ := fits
    rw [done] at hrun
    cases hrun
  | record r o tries =>
    rw [fits.1] at done
    cases done
  | conclude r o tries =>
    rw [fits.1.1] at done
    cases done
  | reschedule clock why may =>
    rw [fits.2.1] at done
    cases done
  | _ => exact ⟨rfl, rfl⟩

end Attempt.Move

/-! ## Restarts -/

namespace Plant

/-- Everything at work, the lanes and the hub are lost, and the lanes are filled again from the
store, before anyone is at work again. -/
def restart (p : Plant) (clock : JobId → Instant) (types : List String) : Plant where
  service :=
    ((Service.ofBackend p.service.settings p.service.queue.backend).recover clock types).2
  actors := []
  journal := p.journal

/-- What happens to a plant at once: something in it, or a restart. -/
inductive Turn where
  | act (action : Action)
  | restart (clock : JobId → Instant) (types : List String)

/-- A plant after a turn. -/
def turn (p : Plant) : Turn → Plant
  | .act action => p.step action
  | .restart clock types => p.restart clock types

/-- A plant after some turns. -/
def turns (p : Plant) (ts : List Turn) : Plant := ts.foldl turn p

variable {p : Plant} {id : JobId}

/-- A restart does nothing to the store but revive jobs, and fills the lanes with runnable ones. -/
theorem restart_revives (hk : p.service.store.Keyed) (clock : JobId → Instant)
    (types : List String) :
    (p.restart clock types).service.queue.Filled ∧
      Store.Revives clock p.service.store (p.restart clock types).service.store := by
  have hfilled : (Queue.ofBackend p.service.settings.queue p.service.queue.backend).Filled :=
    ⟨Queue.sound_ofBackend _ _, fun t id hw => absurd hw (Queue.not_waits_ofBackend _ _ t id)⟩
  exact Queue.recover_revives clock types _ hfilled hk

/-- Nobody is at work after a restart. -/
theorem not_attempted_restart (clock : JobId → Instant) (types : List String) (a : Attempt) :
    ¬(p.restart clock types).Keeps id (.attempted a) := by
  rintro ⟨-, x, hx, -⟩
  exact List.not_mem_nil hx

namespace Orderly

/-- A plant is orderly again after a restart. -/
theorem restart (h : p.Orderly) (clock : JobId → Instant) (types : List String) :
    (p.restart clock types).Orderly := by
  obtain ⟨hfilled, hrevives⟩ := restart_revives h.keyed clock types
  refine ⟨hrevives.keyed h.keyed, hfilled.sound, hfilled.posted, .nil, fun _ _ _ x hx => ?_,
    fun x hx => ?_, fun id hnone => ?_⟩
  · exact absurd hx List.not_mem_nil
  · exact absurd hx List.not_mem_nil
  · obtain ⟨houtcome, hhistory⟩ := h.blank id (hrevives.fresh hnone)
    exact ⟨(hrevives.outcomes id).trans houtcome, hhistory⟩

theorem turn (h : p.Orderly) (t : Turn) : (p.turn t).Orderly := by
  cases t with
  | act action => exact h.step action
  | restart clock types => exact h.restart clock types

theorem turns (h : p.Orderly) (ts : List Turn) : (p.turns ts).Orderly := by
  induction ts generalizing p with
  | nil => exact h
  | cons t ts ih => exact ih (h.turn t)

/-! ## One turn -/

/-- In whatever happens, the record of a job proceeds, and a completed job is left alone. -/
theorem step_proceeds (h : p.Orderly) (act : Action) {job : Job} (hjob : p.record? id = some job) :
    (∃ job', (p.step act).record? id = some job' ∧ job.Proceeds job') ∧
      (job.status = .completed → (p.step act).record? id = some job ∧
        (p.step act).outcome? id = p.outcome? id) := by
  obtain ⟨post, hpost⟩ := p.exists_keeps id
  obtain ⟨post', -, hlife | hstep⟩ := h.follows act hpost
  · have hrecord : (p.step act).record? id = some job := (congrArg Life.record hlife).trans hjob
    exact ⟨⟨job, hrecord, .refl job⟩, fun _ => ⟨hrecord, congrArg Life.outcome hlife⟩⟩
  · -- the step can be told apart once the life after it is a variable
    unfold life at hstep
    generalize (p.step act).record? id = record', (p.step act).outcome? id = outcome',
      (p.step act).history id = js' at *
    rw [hjob] at hstep
    generalize p.outcome? id = outcome, p.history id = js at *
    cases hstep with
    | start job b runnable => exact ⟨⟨job, rfl, .refl job⟩, fun _ => ⟨rfl, rfl⟩⟩
    | move move owns fits => exact ⟨move.proceeds fits, move.of_completed fits⟩

/-- In a restart, the record of a job proceeds, and a completed job is left alone. -/
theorem restart_proceeds (h : p.Orderly) (clock : JobId → Instant) (types : List String) {job : Job}
    (hjob : p.record? id = some job) :
    (∃ job', (p.restart clock types).record? id = some job' ∧ job.Proceeds job') ∧
      (job.status = .completed → (p.restart clock types).record? id = some job ∧
        (p.restart clock types).outcome? id = p.outcome? id) := by
  obtain ⟨-, hrevives⟩ := restart_revives h.keyed clock types
  have houtcome : (p.restart clock types).outcome? id = p.outcome? id := hrevives.outcomes id
  rcases hrevives.jobs id with hsame | ⟨job₀, hjob₀, hstatus, hmoved⟩
  · have hrecord : (p.restart clock types).record? id = some job := hsame.trans hjob
    exact ⟨⟨job, hrecord, .refl job⟩, fun _ => ⟨hrecord, houtcome⟩⟩
  · rw [show p.service.store.job? id = some job from hjob] at hjob₀
    cases hjob₀
    refine ⟨⟨_, hmoved, .moved (clock id) ?_ Status.noConfusion⟩, fun hdone => ?_⟩
    · rw [hstatus]
      rfl
    · rw [hstatus] at hdone
      cases hdone

theorem turn_proceeds (h : p.Orderly) (t : Turn) {job : Job} (hjob : p.record? id = some job) :
    (∃ job', (p.turn t).record? id = some job' ∧ job.Proceeds job') ∧
      (job.status = .completed → (p.turn t).record? id = some job ∧
        (p.turn t).outcome? id = p.outcome? id) := by
  cases t with
  | act action => exact h.step_proceeds action hjob
  | restart clock types => exact h.restart_proceeds clock types hjob

/-! ## Many turns -/

/-- A completed job is left alone for good. -/
theorem turns_of_completed (h : p.Orderly) (ts : List Turn) {job : Job}
    (hjob : p.record? id = some job) (done : job.status = .completed) :
    (p.turns ts).record? id = some job ∧ (p.turns ts).outcome? id = p.outcome? id := by
  induction ts generalizing p with
  | nil => exact ⟨hjob, rfl⟩
  | cons t ts ih =>
    obtain ⟨hrecord, houtcome⟩ := (h.turn_proceeds t hjob).2 done
    obtain ⟨hrecord', houtcome'⟩ := ih (h.turn t) hrecord
    exact ⟨hrecord', houtcome'.trans houtcome⟩

end Orderly

/-- How the stored jobs of a plant go on from here. -/
structure Lawful (p : Plant) : Prop where
  /-- No record is lost, and every record proceeds, whatever comes next. -/
  next : ∀ id job t, p.record? id = some job →
    ∃ job', (p.turn t).record? id = some job' ∧ job.Proceeds job'
  /-- A job that is completed stays as it is, and so does its outcome, whatever comes later. -/
  settled : ∀ id job ts, p.record? id = some job → job.status = .completed →
    (p.turns ts).record? id = some job ∧ (p.turns ts).outcome? id = p.outcome? id

/-- From an empty store on, the records of jobs follow the life cycle, whatever producers, workers
and timers do in whatever order, whichever store calls fail, and however often the plant is
restarted in between. -/
theorem lifecycle (settings : ServiceSettings) (ts : List Turn) :
    ((new settings).turns ts).Lawful := by
  have h := (orderly_new settings).turns ts
  exact ⟨fun id job t hjob => (h.turn_proceeds t hjob).1,
    fun id job ts hjob done => h.turns_of_completed ts hjob done⟩

end Plant

end JobRunner
